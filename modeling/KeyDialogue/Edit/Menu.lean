/-
  Key dialogue — the commands given at the key menu, and selections.

  * An edit has an `Agenda` of menu commands.  `Agenda.next` gives them one
    after the other, and `quit` once none is left;
  * a `SignatureWalk` answers the backend's walk over the signatures of a user
    id: the `n`-th signature visited is taken exactly if `n` is selected.
-/
import KeyDialogue.Note

namespace KeyDialogue

open KeyDialogue.Text

/-- A command of the key menu. -/
inductive MenuCommand where
  | userId (index : Nat)
  | key (index : Nat)
  /-- Signing, with a flag for each variant of the signature. -/
  | sign (isLocal trust nonRevocable : Bool)
  | revsig
  | delsig
  | enable
  | disable
  | trust
  | expire
  | addkey
  | passwd
  | save
  | quit
  deriving DecidableEq, Repr

/-- The line that gives a command. -/
def MenuCommand.text : MenuCommand → String
  | userId index => "uid " ++ numeral index
  | key index => "key " ++ numeral index
  | sign l t nr =>
    (if l then "l" else "") ++ (if t then "t" else "") ++ (if nr then "nr" else "") ++ "sign"
  | revsig => "revsig"
  | delsig => "delsig"
  | enable => "enable"
  | disable => "disable"
  | trust => "trust"
  | expire => "expire"
  | addkey => "addkey"
  | passwd => "passwd"
  | save => "save"
  | quit => "quit"

/-- The menu commands that an edit still has to give. -/
abbrev Agenda := List MenuCommand

/-- The next command, and what is left of the agenda. -/
def Agenda.next : Agenda → MenuCommand × Agenda
  | [] => (.quit, [])
  | c :: rest => (c, rest)

/-- How far the backend has walked over the signatures of a user id. -/
structure SignatureWalk where
  /-- The selected positions, counted from 1 in the order of the walk. -/
  selected : List Nat
  visited : Nat := 0
  deriving DecidableEq, Repr

/-- Visits the next signature: whether it is selected, and the walk after it. -/
def SignatureWalk.next (w : SignatureWalk) : Bool × SignatureWalk :=
  (w.selected.contains (w.visited + 1), { w with visited := w.visited + 1 })

/-- Finds fault with a list of indices that holds 0. -/
def zeroFault? (indices : List Nat) (fault : OptionFault) : Option OptionFault :=
  if indices.contains 0 then some fault else none

end KeyDialogue
