import Dispatch.Proofs.Envelope.Packing
import Dispatch.Proofs.Sqs.Book
import Dispatch.Proofs.Sqs.Validation

/-!
# An address is looked up until it is found, and no longer

One carrier looks up the addresses of all its holders and remembers those that the service gave.
The book of what was said and heard (`Sqs.Ledger`) tells what it remembers: under a name, the first
address that the service gave for that name (`Sqs.Kept`). So a name is looked up until there is an
address for it, everything for it goes to that address then, and no other name matters to it. What
is an address itself is used as it stands.

## Main definitions

* `Sqs.Said.url?`, `Sqs.found`: the address that a reply brought, and the first one in a book.
* `Sqs.Notes`, `Sqs.Talks`: what may be said and heard on behalf of a destination.
* `Sqs.Kept`: how the directory stands to the book.
* `Sqs.Use`, `Sqs.Office`: what the holders of a carrier do with it.

## Main statements

* `Sqs.resolve_spec`, `Sqs.submit_talks`: lookups and batches.
* `Sqs.Kept.notes`: every request keeps the directory as the book says.
* `Sqs.addresses_are_found_once`: the directory over whole histories.
-/
namespace Dispatch.Sqs

open Envelope

variable {ε : Type} {service : Service ε}

/-! ## What is said on behalf of a destination -/

/-- The address of a destination, where the directory or a book says what is known of names. -/
def located (known : String → Option String) (d : String) : Option String :=
  if isUrl d then some d else known d

theorem located_of_address {known : String → Option String} {d : String} (address : IsAddress d) :
    located known d = some d := if_pos (isUrl_iff.2 address)

theorem located_of_name {known : String → Option String} {d : String} (name : ¬IsAddress d) :
    located known d = known d := if_neg (mt isUrl_iff.1 name)

/-- Nothing is known of a destination: it is a name then. -/
theorem located_eq_none_iff {known : String → Option String} {d : String} :
    located known d = none ↔ ¬IsAddress d ∧ known d = none := by
  by_cases address : IsAddress d
  · simp [located_of_address, address]
  · simp [located_of_name, address]

/-- A request on behalf of a destination, with its reply and the directory afterwards. Its address
is looked up when it is not known, and a batch goes to its address. -/
inductive Notes (d : String) (directory : Directory) : Heard → Directory → Prop
  | missing {reply : Except Fault (Option String)} (unknown : located directory.get? d = none)
      (none : ∀ url, reply ≠ .ok (some url)) :
      Notes d directory ⟨.getQueueUrl d, reply⟩ directory
  | found (url : String) (unknown : located directory.get? d = none) :
      Notes d directory ⟨.getQueueUrl d, .ok (some url)⟩ (directory.insert d url)
  | posted {url : String} (posted : List Entry) (reply : Except Fault Response)
      (address : located directory.get? d = some url) :
      Notes d directory ⟨.sendMessageBatch url posted, reply⟩ directory

/-- Requests on behalf of a destination, one after the other. -/
inductive Talks (d : String) : Directory → List Heard → Directory → Prop
  | nil (directory : Directory) : Talks d directory [] directory
  | cons {directory next last : Directory} {said : Heard} {more : List Heard}
      (first : Notes d directory said next) (rest : Talks d next more last) :
      Talks d directory (said :: more) last

variable {d : String} {directory next last : Directory}

theorem Talks.append {said more : List Heard} (h : Talks d directory said next)
    (k : Talks d next more last) : Talks d directory (said ++ more) last := by
  induction h with
  | nil => exact k
  | cons first _ ih => exact .cons first (ih k)

/-- No other name is looked up. -/
theorem Talks.eq_of_asked {more : List Heard} (h : Talks d directory more last) {said : Heard}
    (among : said ∈ more) {name : String} (asked : said.request = .getQueueUrl name) :
    name = d := by
  induction h with
  | nil => cases among
  | cons first _ ih =>
    rcases List.mem_cons.1 among with rfl | later
    · cases first <;> cases asked
      · rfl
      · rfl
    · exact ih later

theorem resolve_of_located {url : String} (address : located directory.get? d = some url) :
    resolve directory d = .done (.ok url, directory) := by
  by_cases is_url : isUrl d
  · rw [located, if_pos is_url] at address
    cases address
    rw [resolve, if_pos is_url]
  · rw [located, if_neg is_url] at address
    rw [resolve, if_neg is_url, address]

/-- A name without an address is asked for, once. -/
theorem talk_resolve_of_unknown {name : String} (unknown : located directory.get? name = none)
    (world : ε) :
    (resolve directory name).talk service world =
      [⟨.getQueueUrl name, (service.reply (.getQueueUrl name) world).1⟩] := by
  obtain ⟨is_name, none⟩ := located_eq_none_iff.1 unknown
  have not_url : ¬isUrl name = true := mt isUrl_iff.1 is_name
  simp only [resolve, not_url, none, Bool.false_eq_true, if_false, Exchange.talk]
  split <;> rfl

/-- A lookup asks for what is not known, and gives what is known then. -/
theorem resolve_spec (service : Service ε) (directory : Directory) (d : String) (world : ε) :
    let seen := (resolve directory d).run service world
    Talks d directory ((resolve directory d).talk service world) seen.1.2 ∧
      ∀ url, seen.1.1 = .ok url → located seen.1.2.get? d = some url := by
  cases known : located directory.get? d with
  | some url =>
    rw [resolve_of_located known]
    refine ⟨.nil directory, ?_⟩
    intro url' same
    cases same
    exact known
  | none =>
    obtain ⟨name, unknown⟩ := located_eq_none_iff.1 known
    have not_url : ¬isUrl d = true := mt isUrl_iff.1 name
    simp only [resolve, not_url, unknown, Bool.false_eq_true, if_false, Exchange.run, Exchange.talk]
    cases (service.reply (.getQueueUrl d) world).1 with
    | error fault =>
      refine ⟨.cons (.missing known fun url found => by cases found) (.nil _), ?_⟩
      intro url found
      cases found
    | ok given =>
      cases given with
      | none =>
        refine ⟨.cons (.missing known fun url found => by cases found) (.nil _), ?_⟩
        intro url found
        cases found
      | some url =>
        refine ⟨.cons (.found url known) (.nil _), ?_⟩
        intro url' same
        cases same
        rw [located_of_name name]
        exact Table.get?_insert_self directory d url

/-- A batch is posted to the address that was looked up for it. -/
theorem submit_talks (service : Service ε) (directory : Directory) (stamps : ℕ → Stamp) (d : String)
    (messages : List Message) (world : ε) :
    Talks d directory ((submit directory stamps d messages).talk service world)
      ((submit directory stamps d messages).run service world).1.2 := by
  rcases refuses_or_packs directory stamps d messages with ⟨answer, submitted, -⟩ |
    ⟨envelopes, packed, shipped, -⟩
  · rw [submitted]
    exact .nil directory
  · obtain ⟨looked_up, address⟩ := resolve_spec service directory d world
    rw [shipped, ship, packed]
    simp only [Exchange.talk_andThen, Exchange.run_andThen]
    generalize (resolve directory d).run service world = seen at looked_up address
    obtain ⟨⟨url, next⟩, world⟩ := seen
    cases url with
    | error e => exact looked_up.append (.nil next)
    | ok url =>
      obtain ⟨reply, asked⟩ := talk_post service d url envelopes world
      refine looked_up.append ?_
      simp only [Exchange.talk_andThen, Exchange.run_andThen, asked]
      exact .cons (.posted _ reply (address url rfl)) (.nil next)

/-! ## The directory and the book -/

/-- The address that the service gave for a name. -/
def Said.url? (name : String) : Said → Option String
  | ⟨_, ⟨.getQueueUrl asked, reply⟩⟩ =>
    match (reply : Except Fault (Option String)) with
    | .ok (some url) => if asked = name then some url else none
    | _ => none
  | ⟨_, ⟨.sendMessageBatch _ _, _⟩⟩ => none

/-- An address is given in a reply that has one. -/
theorem Said.url?_eq_some_iff {said : Said} {name url : String} :
    said.url? name = some url ↔ said.heard = ⟨.getQueueUrl name, .ok (some url)⟩ := by
  obtain ⟨d, request, reply⟩ := said
  cases request with
  | sendMessageBatch address posted => exact iff_of_false nofun nofun
  | getQueueUrl asked =>
    rcases reply with fault | _ | given
    · exact iff_of_false nofun nofun
    · exact iff_of_false nofun nofun
    · by_cases same : asked = name
      · subst same
        rw [url?, if_pos rfl, Option.some.injEq]
        constructor
        · rintro rfl
          rfl
        · intro heard
          cases heard
          rfl
      · rw [url?, if_neg same]
        refine iff_of_false nofun fun heard => same ?_
        cases heard
        rfl

/-- The first address that the service gave for a name. -/
def found (book : List Said) (name : String) : Option String := book.findSome? (Said.url? name)

theorem found_append (book more : List Said) (name : String) :
    found (book ++ more) name = (found book name).or (found more name) := List.findSome?_append

/-- Under a name the directory has the first address that the service gave for it. Names were
looked up while there was none, and batches went to the addresses known at the time. -/
structure Kept (directory : Directory) (book : List Said) : Prop where
  known : directory.get? = found book
  looked_up : ∀ past said rest name, book = past ++ said :: rest →
    said.heard.request = .getQueueUrl name →
      said.destination = name ∧ located (found past) name = none
  posted : ∀ past said rest url posted, book = past ++ said :: rest →
    said.heard.request = .sendMessageBatch url posted →
      located (found past) said.destination = some url

theorem Kept.new : Kept ∅ [] :=
  ⟨rfl, fun past _ _ _ split => by simp at split,
    fun past _ _ _ _ split => by simp at split⟩

/-- An entry of a book with one more at its end is one of those before, or the new one. -/
theorem concat_eq_append_cons {book past rest : List Said} {new said : Said}
    (split : book ++ [new] = past ++ said :: rest) :
    (past = book ∧ said = new) ∨ ∃ rest, book = past ++ said :: rest := by
  rcases List.eq_nil_or_concat rest with rfl | ⟨rest, last, rfl⟩
  · obtain ⟨same, new_eq⟩ := List.append_inj' split rfl
    exact .inl ⟨same.symm, (List.singleton_inj.1 new_eq).symm⟩
  · rw [List.concat_eq_append, ← List.cons_append, ← List.append_assoc] at split
    exact .inr ⟨rest, (List.append_inj' split rfl).1⟩

namespace Kept

variable {book : List Said} {said : Heard}

/-- What is known of a name changes when the service gives an address for it. -/
theorem get?_of_notes (K : Kept directory book) (h : Notes d directory said next) :
    next.get? = found (book ++ [⟨d, said⟩]) := by
  funext name
  rw [found_append, ← K.known]
  cases h with
  | @missing reply unknown none =>
    have nothing : found [⟨d, ⟨.getQueueUrl d, reply⟩⟩] name = Option.none := by
      cases reply with
      | error fault => rfl
      | ok given =>
        cases given with
        | none => rfl
        | some url => exact absurd rfl (none url)
    rw [nothing, Option.or_none]
  | found url unknown =>
    rw [Table.get?_insert]
    by_cases same : name = d
    · subst same
      obtain ⟨-, none⟩ := located_eq_none_iff.1 unknown
      simp [none, Sqs.found, Said.url?]
    · simp [Sqs.found, Said.url?, same, Ne.symm same]
  | @posted url posted reply address =>
    have nothing : found [⟨d, ⟨.sendMessageBatch url posted, reply⟩⟩] name = Option.none := rfl
    rw [nothing, Option.or_none]

/-- **Every request keeps the directory as the book says.** -/
theorem notes (K : Kept directory book) (h : Notes d directory said next) :
    Kept next (book ++ [⟨d, said⟩]) := by
  refine ⟨K.get?_of_notes h, ?_, ?_⟩
  · intro past said rest name split asked
    rcases concat_eq_append_cons split with ⟨rfl, rfl⟩ | ⟨rest, before⟩
    · rw [← K.known]
      cases h with
      | missing unknown | found url unknown =>
        cases asked
        exact ⟨rfl, unknown⟩
      | posted => cases asked
    · exact K.looked_up past said rest name before asked
  · intro past said rest url posted split asked
    rcases concat_eq_append_cons split with ⟨rfl, rfl⟩ | ⟨rest, before⟩
    · rw [← K.known]
      cases h with
      | missing | found => cases asked
      | posted posted reply address =>
        cases asked
        exact address
    · exact K.posted past said rest url posted before asked

theorem talks {more : List Heard} (K : Kept directory book) (h : Talks d directory more next) :
    Kept next (book ++ more.map fun said => ⟨d, said⟩) := by
  induction h generalizing book with
  | nil => simpa using K
  | cons first _ ih => simpa using ih (K.notes first)

variable (K : Kept directory book)
include K

/-- From the moment that an address is found, it is the one. -/
theorem found_after {past later : List Said} {said : Said} {name url : String}
    (split : book = past ++ said :: later) (given : said.url? name = some url)
    (mid : List Said) : ¬IsAddress name ∧ found (past ++ said :: mid) name = some url := by
  have asked : said.heard.request = .getQueueUrl name := by
    rw [Said.url?_eq_some_iff.1 given]
  obtain ⟨-, unknown⟩ := K.looked_up past said later name split asked
  obtain ⟨is_name, none⟩ := located_eq_none_iff.1 unknown
  refine ⟨is_name, ?_⟩
  rw [found_append, none, Option.none_or]
  simp [found, given]

/-- A name whose address was found is not looked up, and what is sent goes to the address. -/
theorem request_after {past later : List Said} {said : Said} {name url : String}
    (split : book = past ++ said :: later) (given : said.url? name = some url) {more : Said}
    (after : more ∈ later) :
    more.heard.request ≠ .getQueueUrl name ∧
      (more.destination = name → ∃ posted, more.heard.request = .sendMessageBatch url posted) := by
  obtain ⟨mid, rest, rfl⟩ := List.append_of_mem after
  obtain ⟨is_name, known⟩ := K.found_after split given mid
  rw [← List.cons_append, ← List.append_assoc] at split
  have not_asked : more.heard.request ≠ .getQueueUrl name := by
    intro asked
    obtain ⟨-, unknown⟩ := K.looked_up _ more rest name split asked
    rw [located_of_name is_name, known] at unknown
    cases unknown
  refine ⟨not_asked, ?_⟩
  intro here
  cases request : more.heard.request with
  | getQueueUrl asked =>
    obtain ⟨same, -⟩ := K.looked_up _ more rest asked split request
    rw [here] at same
    subst same
    exact absurd request not_asked
  | sendMessageBatch address posted =>
    have goes := K.posted _ more rest address posted split request
    rw [here, located_of_name is_name, known] at goes
    cases goes
    exact ⟨posted, rfl⟩

/-- What is an address is not looked up, and what is sent to it goes there. -/
theorem request_of_address {said : Said} (among : said ∈ book) {d : String}
    (address : IsAddress d) :
    said.heard.request ≠ .getQueueUrl d ∧
      (said.destination = d → ∃ posted, said.heard.request = .sendMessageBatch d posted) := by
  obtain ⟨past, rest, split⟩ := List.append_of_mem among
  have name_of_asked {name} (asked : said.heard.request = .getQueueUrl name) :
      said.destination = name ∧ ¬IsAddress name := by
    obtain ⟨same, unknown⟩ := K.looked_up past said rest name split asked
    exact ⟨same, (located_eq_none_iff.1 unknown).1⟩
  refine ⟨fun asked => (name_of_asked asked).2 address, ?_⟩
  intro here
  cases request : said.heard.request with
  | getQueueUrl asked =>
    obtain ⟨same, is_name⟩ := name_of_asked request
    exact absurd (here ▸ address) (same ▸ is_name)
  | sendMessageBatch url posted =>
    have goes := K.posted past said rest url posted split request
    rw [here, located_of_address address] at goes
    cases goes
    exact ⟨posted, rfl⟩

/-- No address is remembered under one. -/
theorem get?_of_address {d : String} (address : IsAddress d) : directory.get? d = none := by
  rw [K.known, found, List.findSome?_eq_none_iff]
  intro said among
  by_contra given
  obtain ⟨url, given⟩ := Option.ne_none_iff_exists'.1 given
  apply (K.request_of_address among address).1
  rw [Said.url?_eq_some_iff.1 given]

/-- What was not given for any name, changes nothing. -/
theorem get?_of_append {next : Directory} {new : List Said} (K' : Kept next (book ++ new))
    {name : String} (none : ∀ said ∈ new, said.url? name = none) :
    next.get? name = directory.get? name := by
  have nothing : found new name = Option.none := List.findSome?_eq_none_iff.2 none
  rw [K'.known, K.known, found_append, nothing, Option.or_none]

end Kept

/-! ## Whole histories -/

namespace Ledger

/-- The directory of a session stands to its book as it should. -/
def Kept (ledger : Ledger ε) : Prop := Sqs.Kept ledger.session.directory ledger.book

variable {ledger : Ledger ε}

theorem Kept.queueUrl (K : ledger.Kept) (d : String) : (ledger.queueUrl service d).2.Kept :=
  Sqs.Kept.talks K (resolve_spec service ledger.session.directory d ledger.session.world).1

theorem Kept.sendBatch (K : ledger.Kept) (d : String) (messages : List Message) :
    ((recording service).sendBatch d messages ledger).2.Kept :=
  Sqs.Kept.talks K (submit_talks service ledger.session.directory _ d messages _)

/-- Nothing is said when the address is known. -/
theorem queueUrl_of_located {d url : String}
    (known : located ledger.session.directory.get? d = some url) :
    ledger.queueUrl service d = (.ok url, ledger) := by
  simp [queueUrl, Sqs.queueUrl, inquiry, resolve_of_located known, note]

/-- A name without an address is looked up. -/
theorem queueUrl_of_unknown {name : String}
    (unknown : located ledger.session.directory.get? name = none) :
    ∃ reply, (ledger.queueUrl service name).2.book =
      ledger.book ++ [⟨name, ⟨.getQueueUrl name, reply⟩⟩] := by
  refine ⟨(service.reply (.getQueueUrl name) ledger.session.world).1, ?_⟩
  simp only [queueUrl, inquiry, talk_resolve_of_unknown unknown]
  rfl

/-- A batch that can be sent looks up its destination first, when this is a name without an
address. -/
theorem sendBatch_of_unknown {name : String}
    (unknown : located ledger.session.directory.get? name = none) {messages : List Message}
    (some_message : 1 ≤ messages.length) (few : messages.length ≤ 10)
    (packs : AllPack name (service.stamps ledger.session.world).1 messages) :
    ∃ reply more, ((recording service).sendBatch name messages ledger).2.book =
      ledger.book ++ ⟨name, ⟨.getQueueUrl name, reply⟩⟩ :: more := by
  rcases refuses_or_packs ledger.session.directory (service.stamps ledger.session.world).1 name
    messages with ⟨-, -, -, fails⟩ | ⟨envelopes, packed, shipped, -⟩
  · exact absurd ⟨some_message, few, packs⟩ fails
  · simp only [recording, note, conversation, shipped, ship, packed, Exchange.talk_andThen,
      talk_resolve_of_unknown unknown, List.singleton_append, List.map_cons]
    exact ⟨_, _, rfl⟩

end Ledger

/-- What the holders of a carrier do with it: they look up an address, send a batch, or have an
outbox take a turn or carry out an operation. -/
inductive Use where
  | queueUrl (destination : String)
  | sendBatch (destination : String) (messages : List Message)
  | turn (outbox : ℕ) (turn : Turn Message)
  | perform (outbox : ℕ) (operation : Operation Message)

/-- A carrier with the outboxes that use it. -/
structure Office (ε : Type) where
  outboxes : ℕ → Outbox Message
  ledger : Ledger ε

namespace Office

/-- A carrier that was not used yet. -/
def new (outboxes : ℕ → Outbox Message) (world : ε) : Office ε := ⟨outboxes, ⟨∅, world⟩, []⟩

/-- An outbox has used the carrier. -/
def move (office : Office ε) (outbox : ℕ)
    (seen : Outbox Message × List (Notice Message) × Ledger ε) : Office ε :=
  ⟨Function.update office.outboxes outbox seen.1, seen.2.2⟩

/-- One use of the carrier. -/
def use (service : Service ε) (office : Office ε) : Use → Office ε
  | .queueUrl d => { office with ledger := (office.ledger.queueUrl service d).2 }
  | .sendBatch d messages =>
    { office with ledger := ((recording service).sendBatch d messages office.ledger).2 }
  | .turn i turn =>
    office.move i (Outbox.hosted (recording service) [turn] (office.outboxes i) office.ledger)
  | .perform i operation =>
    office.move i (Outbox.perform (recording service) operation (office.outboxes i) office.ledger)

/-- Uses of the carrier, one after the other. -/
def useAll (service : Service ε) (office : Office ε) (uses : List Use) : Office ε :=
  uses.foldl (use service) office

/-- What lookups and batches keep, every use keeps. -/
theorem use_keeps {P : Ledger ε → Prop}
    (looks_up : ∀ d ledger, P ledger → P (ledger.queueUrl service d).2)
    (sends : ∀ d messages ledger, P ledger → P ((recording service).sendBatch d messages ledger).2)
    {office : Office ε} (start : P office.ledger) (use : Use) :
    P (office.use service use).ledger := by
  cases use with
  | queueUrl d => exact looks_up d _ start
  | sendBatch d messages => exact sends d messages _ start
  | turn i turn => exact Outbox.hosted_keeps sends [turn] _ start
  | perform i operation => exact Outbox.perform_keeps sends operation _ start

theorem kept_use {office : Office ε} (K : office.ledger.Kept) (use : Use) :
    (office.use service use).ledger.Kept :=
  use_keeps (fun d _ K => K.queueUrl d) (fun d messages _ K => K.sendBatch d messages) K use

theorem kept_useAll {office : Office ε} (K : office.ledger.Kept) (uses : List Use) :
    (office.useAll service uses).ledger.Kept := by
  induction uses generalizing office with
  | nil => exact K
  | cons use uses ih => exact ih (kept_use K use)

/-- The book only grows. -/
theorem book_use (office : Office ε) (use : Use) :
    ∃ new, (office.use service use).ledger.book = office.ledger.book ++ new := by
  apply use_keeps (P := fun ledger => ∃ new, ledger.book = office.ledger.book ++ new)
  · rintro d ledger ⟨new, grown⟩
    exact ⟨_, (congrArg (· ++ _) grown).trans (List.append_assoc _ _ _)⟩
  · rintro d messages ledger ⟨new, grown⟩
    exact ⟨_, (congrArg (· ++ _) grown).trans (List.append_assoc _ _ _)⟩
  · exact ⟨[], (List.append_nil _).symm⟩

end Office

/-- **An address is found once.** Take one carrier and any uses of it, through any outboxes or
directly, and whatever the service replies; that this is written down changes nothing. Once the
service has given an address for a name, the name is not looked up again, what is sent to it goes to
this address, and a lookup gives the address without a request. As long as it has not, nothing is
remembered for the name, so a lookup asks for it, and a batch that can be sent asks for it first. A
use changes what is remembered for a name only if the service gives an address for that name
meanwhile; if it gives none at all, what is remembered stays as it is. What begins with `https://`
or `http://` is never looked up or remembered, what is sent to it goes there, and a lookup gives it
back without a request. -/
theorem addresses_are_found_once (service : Service ε) (outboxes : ℕ → Outbox Message) (world : ε)
    (uses : List Use) :
    let office := (Office.new outboxes world).useAll service uses
    let ledger := office.ledger
    let directory := ledger.session.directory
    (∀ (turns : List (Turn Message)) (o : Outbox Message),
      Outbox.hosted (carrier service) turns o ledger.session =
        let (last, notices, now) := Outbox.hosted (recording service) turns o ledger
        (last, notices, now.session)) ∧
    (∀ past said later name url, ledger.book = past ++ said :: later →
      said.url? name = some url →
        (∀ more ∈ later, more.heard.request ≠ .getQueueUrl name ∧
          (more.destination = name →
            ∃ posted, more.heard.request = .sendMessageBatch url posted)) ∧
        ledger.queueUrl service name = (.ok url, ledger)) ∧
    (∀ name, ¬IsAddress name → (∀ said ∈ ledger.book, said.url? name = none) →
      directory.get? name = none ∧
      (∃ reply, (ledger.queueUrl service name).2.book =
        ledger.book ++ [⟨name, ⟨.getQueueUrl name, reply⟩⟩]) ∧
      ∀ messages : List Message, 1 ≤ messages.length → messages.length ≤ 10 →
        AllPack name (service.stamps ledger.session.world).1 messages →
          ∃ reply more, ((recording service).sendBatch name messages ledger).2.book =
            ledger.book ++ ⟨name, ⟨.getQueueUrl name, reply⟩⟩ :: more) ∧
    (∀ use, ∃ new, (office.use service use).ledger.book = ledger.book ++ new ∧
      (∀ name, (∀ said ∈ new, said.url? name = none) →
        (office.use service use).ledger.session.directory.get? name = directory.get? name) ∧
      ((∀ said ∈ new, ∀ name, said.url? name = none) →
        (office.use service use).ledger.session.directory = directory)) ∧
    ∀ d, IsAddress d →
      directory.get? d = none ∧
      (∀ said ∈ ledger.book, said.heard.request ≠ .getQueueUrl d ∧
        (said.destination = d →
          ∃ posted, said.heard.request = .sendMessageBatch d posted)) ∧
      ledger.queueUrl service d = (.ok d, ledger) := by
  intro office ledger directory
  have fresh : (Office.new outboxes world).ledger.Kept := Kept.new
  have K : ledger.Kept := Office.kept_useAll fresh uses
  refine ⟨fun turns o => hosted_recording service turns o ledger, ?_, ?_, ?_, ?_⟩
  · intro past said later name url split given
    obtain ⟨is_name, known⟩ := K.found_after split given later
    refine ⟨fun more after => K.request_after split given after, ?_⟩
    apply Ledger.queueUrl_of_located
    rw [located_of_name is_name, K.known, split, known]
  · intro name is_name none
    have unknown : directory.get? name = Option.none := by
      rw [K.known]
      exact List.findSome?_eq_none_iff.2 none
    have not_located : located directory.get? name = Option.none :=
      located_eq_none_iff.2 ⟨is_name, unknown⟩
    refine ⟨unknown, Ledger.queueUrl_of_unknown not_located, ?_⟩
    intro messages some_message few packs
    exact Ledger.sendBatch_of_unknown not_located some_message few packs
  · intro use
    obtain ⟨new, grown⟩ := office.book_use use
    have K' : Kept (office.use service use).ledger.session.directory (ledger.book ++ new) := by
      rw [← grown]
      exact Office.kept_use K use
    refine ⟨new, grown, fun name none => K.get?_of_append K' none, ?_⟩
    intro none
    ext1 name
    exact K.get?_of_append K' fun said among => none said among name
  · intro d address
    refine ⟨K.get?_of_address address, fun said among => K.request_of_address among address, ?_⟩
    exact Ledger.queueUrl_of_located (located_of_address address)

/-- A service that remembers what it will reply to lookups, and takes no batch. -/
def scripted : Service (List (Except Fault (Option String))) where
  reply
    | .getQueueUrl _, state => (state.headD (.ok none), state.tail)
    | .sendMessageBatch _ _, state => (.error .dispatch, state)
  stamps state := (fun _ => default, state)

/-- One name is looked up twice, and in between another one that begins with it; then a message is
sent to the first one from an outbox. -/
def twoLookups : List Use :=
  [.queueUrl "a", .queueUrl "ab", .queueUrl "a", .perform 0 (.send "a" (.ok ⟨.null, ∅⟩)),
    .perform 0 (.flush "a")]

/-- The replies to the lookups: only the last one has an address. -/
def thirdFinds : List (Except Fault (Option String)) :=
  [.error .dispatch, .ok none, .ok (some "https://q")]

/-- The second lookup finds the address, so the message is posted without another one. The name
that begins with it is still looked up. -/
theorem found_at_second_lookup :
    let office :=
      (Office.new (fun _ => Outbox.single Message) thirdFinds).useAll scripted twoLookups
    let ledger := office.ledger
    (∃ first second third posted reply, ledger.book =
        [first, second, third, ⟨"a", ⟨.sendMessageBatch "https://q" posted, reply⟩⟩] ∧
      third.url? "a" = some "https://q") ∧
    ledger.queueUrl scripted "a" = (.ok "https://q", ledger) ∧
    ∃ reply, (ledger.queueUrl scripted "ab").2.book =
      ledger.book ++ [⟨"ab", ⟨.getQueueUrl "ab", reply⟩⟩] := by
  intro office ledger
  have booked : ∃ first second third posted reply, ledger.book =
      [first, second, third, ⟨"a", ⟨.sendMessageBatch "https://q" posted, reply⟩⟩] ∧
        third.url? "a" = some "https://q" := ⟨_, _, _, _, _, rfl, rfl⟩
  obtain ⟨-, found, unfound, -⟩ :=
    addresses_are_found_once scripted (fun _ => Outbox.single Message) thirdFinds twoLookups
  refine ⟨booked, ?_, ?_⟩
  · obtain ⟨first, second, third, posted, reply, all, given⟩ := booked
    exact (found [first, second] third _ "a" "https://q" all given).2
  · have is_name : ¬IsAddress "ab" := mt isUrl_iff.2 (by decide)
    have none : ∀ said ∈ ledger.book, said.url? "ab" = none := by decide
    exact (unfound "ab" is_name none).2.1

end Dispatch.Sqs
