import Dispatch.Log.Basic

/-!
# Logs with several holders

A desk keeps logs and hands out numbered handles to them. Handles that are shared stand for
one log: what is written through one is read through all.

## Main definitions

* `Desk`: the logs, and the log that each handle stands for.
* `Desk.Step`, `Desk.step`: what a holder may do, and the events it causes.
* `Desk.read`: the log behind a handle.
-/
namespace Dispatch

/-- Logs, and for every handle the position of its log. -/
structure Desk where
  logs : List Log
  handles : List Nat
  deriving DecidableEq, Repr

namespace Desk

/-- What a holder may do. Handles are numbered in the order they are handed out. -/
inductive Step where
  /-- Starts a log and hands out a handle to it. -/
  | start
  /-- Hands out another handle to the same log. -/
  | share (handle : Nat)
  | write (handle : Nat) (level : Level) (line : String)
  /-- Copies the lines that the source has now. -/
  | extend (handle source : Nat)
  deriving DecidableEq, Repr

/-- A desk without logs. -/
def empty : Desk := ⟨[], []⟩

/-- The position of the log behind a handle. -/
def position? (d : Desk) (handle : Nat) : Option Nat := d.handles[handle]?

/-- The log behind a handle. -/
def read (d : Desk) (handle : Nat) : Log :=
  ((d.position? handle).bind fun position => d.logs[position]?).getD .empty

/-- Replaces the log behind a handle. -/
def update (d : Desk) (handle : Nat) (log : Log) : Desk :=
  match d.position? handle with
  | some position => { d with logs := d.logs.set position log }
  | none => d

/-- Carries out a step. Copying a log to itself, through whatever handles, adds nothing. -/
def step (d : Desk) : Step → Desk × List Event
  | .start => (⟨d.logs ++ [.empty], d.handles ++ [d.logs.length]⟩, [])
  | .share handle =>
    match d.position? handle with
    | some position => ({ d with handles := d.handles ++ [position] }, [])
    | none => (d, [])
  | .write handle level line =>
    (d.update handle ((d.read handle).write level line), Event.ofLine level line)
  | .extend handle source =>
    if d.position? handle = d.position? source then (d, [])
    else (d.update handle ((d.read handle).append (d.read source)), [])

/-- Carries out steps one after the other and collects their events. -/
def run (d : Desk) : List Step → Desk × List Event
  | [] => (d, [])
  | s :: steps =>
    let (next, events) := d.step s
    let (last, more) := run next steps
    (last, events ++ more)

end Desk

end Dispatch
