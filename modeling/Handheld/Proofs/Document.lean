import Mathlib.Data.List.Nodup
import Handheld.Document

/-! Plain documents: sections of texts, booleans and integers, under names that need no quotes.
A faithful format reads them as it wrote them. Main statements: what a deletion leaves of a
plain document is plain, and what is found in it under a name.
-/

namespace Handheld

namespace Document

-----------------------------------------------------------------------------------------
-- Names
-----------------------------------------------------------------------------------------

/-- A name that needs no quotes. -/
structure Bare (name : String) : Prop where
  nonempty : name.toList ≠ []
  plain : ∀ c ∈ name.toList, c.isAlphanum || c == '-' || c == '_'

instance (name : String) : Decidable (Bare name) :=
  decidable_of_iff
    ((!name.toList.isEmpty
      && name.toList.all fun c => c.isAlphanum || c == '-' || c == '_') = true) <| by
    rw [Bool.and_eq_true, List.all_eq_true, Bool.not_eq_true', List.isEmpty_eq_false_iff]
    exact ⟨fun both => ⟨both.1, both.2⟩, fun bare => ⟨bare.nonempty, bare.plain⟩⟩

variable {α : Type}

/-- Entries with bare names, each of its own, and with values of a kind. -/
structure Named (Kind : α → Prop) (entries : List (String × α)) : Prop where
  bare : ∀ name ∈ entries.map Prod.fst, Bare name
  distinct : (entries.map Prod.fst).Nodup
  each : ∀ entry ∈ entries, Kind entry.2

namespace Named

variable {Kind : α → Prop} {entries : List (String × α)}

theorem sublist (named : Named Kind entries) {kept : List (String × α)}
    (fewer : kept.Sublist entries)
    : Named Kind kept where
  bare name member := named.bare name ((fewer.map Prod.fst).mem member)
  distinct := named.distinct.sublist (fewer.map Prod.fst)
  each entry member := named.each entry (fewer.mem member)

/-- Entries under the same names are named too, whatever the kind of their values. -/
theorem of_names {β : Type} {Other : β → Prop} {others : List (String × β)}
    (named : Named Kind entries) (same : others.map Prod.fst = entries.map Prod.fst)
    (each : ∀ other ∈ others, Other other.2)
    : Named Other others where
  bare := same ▸ named.bare
  distinct := same ▸ named.distinct
  each := each

theorem imp {Other : α → Prop} (named : Named Kind entries)
    (each : ∀ entry ∈ entries, Kind entry.2 → Other entry.2)
    : Named Other entries :=
  named.of_names rfl fun entry member => each entry member (named.each entry member)

end Named

/-- What is found under a name that is left is what was there, and under one that is deleted
nothing is found.
-/
theorem find?_filter_name (pairs : List (String × α)) (deleted : String → Bool) (name : String)
    : (pairs.filter fun pair => !deleted pair.1).find? (fun pair => pair.1 == name)
      = if deleted name then none else pairs.find? fun pair => pair.1 == name := by
  rw [List.find?_filter]
  by_cases gone : deleted name
  · rw [if_pos gone, List.find?_eq_none]
    intro pair _
    by_cases same : pair.1 = name <;> simp [same, gone]
  · rw [if_neg gone]
    congr 1
    funext pair
    by_cases same : pair.1 = name <;> simp [same, gone]

theorem get?_filter (document : Document) (deleted : String → Bool) (name : String)
    : get? (document.filter fun entry => !deleted entry.1) name
      = if deleted name then none else document.get? name := by
  rw [get?, find?_filter_name]
  cases deleted name <;> rfl

/-- Under one of its distinct names, a document has the value with this name. -/
theorem get?_of_mem {document : Document} (distinct : (document.map Prod.fst).Nodup)
    {entry : String × Value} (member : entry ∈ document)
    : document.get? entry.1 = some entry.2 := by
  induction document with
  | nil => contradiction
  | cons first document ih =>
      obtain ⟨fresh, distinct⟩ := List.nodup_cons.mp distinct
      rcases List.mem_cons.mp member with rfl | member
      · simp [get?]
      · have apart : first.1 ≠ entry.1 := fun same =>
          fresh (same ▸ List.mem_map_of_mem member)
        simpa [get?, apart] using ih distinct member

-----------------------------------------------------------------------------------------
-- Plain documents
-----------------------------------------------------------------------------------------

/-- A value that is no integer beyond the greatest one. -/
def Value.Held : Value → Prop
  | .integer number => number ≤ greatestInteger
  | _ => True

instance (value : Value) : Decidable value.Held :=
  match value with
  | .integer number => inferInstanceAs (Decidable (number ≤ greatestInteger))
  | .text _ | .float _ | .boolean _ | .dateTime _ | .array _ | .table _ => isTrue trivial

/-- The entries of a table; other values have none. -/
def Value.entries : Value → Document
  | .table entries => entries
  | _ => []

def Value.EntriesHeld (value : Value) : Prop := ∀ entry ∈ value.entries, entry.2.Held

instance (value : Value) : Decidable value.EntriesHeld := List.decidableBAll _ value.entries

/-- All integers in the sections of a document are held. -/
def Held (document : Document) : Prop := ∀ part ∈ document, part.2.EntriesHeld

instance (document : Document) : Decidable document.Held := List.decidableBAll _ document

/-- The values of sections: texts, booleans, and numbers that are held. -/
inductive Value.Plain : Value → Prop
  | text (text : String) : Plain (.text text)
  | natural (number : Nat) (held : number ≤ greatestInteger) : Plain (.integer number)
  | boolean (value : Bool) : Plain (.boolean value)

/-- A section with plain values. -/
inductive Value.PlainSection : Value → Prop
  | table {entries : Document} (plain : Named Plain entries) : PlainSection (.table entries)

/-- A document of sections with plain values. -/
def Plain (document : Document) : Prop := Named Value.PlainSection document

/-- What is relied on of a format: a plain document is printed as a text that is parsed as this
document, and one with an integer beyond 64 bits with a sign is refused.
-/
structure Format.Faithful (format : Format) : Prop where
  parse_print : ∀ document : Document, document.Plain
    → ∃ text, format.print document = .ok text ∧ format.parse text = .ok document
  refuses : ∀ document : Document, ¬document.Held
    → ∃ reason, format.print document = .error reason

-----------------------------------------------------------------------------------------
-- Deletions
-----------------------------------------------------------------------------------------

/-- A choice of what to delete from a document: sections as a whole, and keys of sections. -/
structure Deletion where
  parts : (part : String) → Bool
  keys : (part key : String) → Bool

namespace Deletion

/-- What a deletion leaves of the section of a name. -/
def leavesOf (deletion : Deletion) (part : String) : Value → Value
  | .table entries => .table (entries.filter fun entry => !deletion.keys part entry.1)
  | value => value

/-- What a deletion leaves of a document. -/
def leaves (deletion : Deletion) (document : Document) : Document :=
  (document.filter fun part => !deletion.parts part.1).map fun part =>
    (part.1, deletion.leavesOf part.1 part.2)

theorem get?_leaves (deletion : Deletion) (document : Document) (part : String)
    : (deletion.leaves document).get? part
      = if deletion.parts part then none
        else (document.get? part).map (deletion.leavesOf part) := by
  rw [get?, leaves, List.find?_map]
  change ((List.find? (fun found : String × Value => found.1 == part) _).map _).map _ = _
  rw [find?_filter_name, get?]
  cases deletion.parts part with
  | true => rfl
  | false =>
      cases found : document.find? fun entry => entry.1 == part with
      | none => rfl
      | some entry =>
          have same : entry.1 = part := by simpa using List.find?_some found
          simp [same]

/-- What a deletion leaves of a plain document is plain. -/
theorem leaves_plain (deletion : Deletion) {document : Document} (plain : document.Plain)
    : (deletion.leaves document).Plain := by
  have kept : Plain (document.filter fun part => !deletion.parts part.1) :=
    plain.sublist List.filter_sublist
  refine kept.of_names (by rw [leaves, List.map_map]; rfl) fun part member => ?_
  obtain ⟨whole, left, rfl⟩ := List.mem_map.mp member
  obtain ⟨part, value⟩ := whole
  cases kept.each _ left with
  | table entries => exact .table (entries.sublist List.filter_sublist)

end Deletion

end Document

end Handheld
