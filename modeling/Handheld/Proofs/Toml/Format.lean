import Handheld.Proofs.Toml.Documents
import Handheld.Toml.Format

/-! TOML as a format. Main statement: a plain document is printed and parsed as it was, and a
document with an integer that is not held is not printed.
-/

namespace Handheld

namespace Toml

open Document (Named)

-----------------------------------------------------------------------------------------
-- Conversion under names
-----------------------------------------------------------------------------------------

section

variable {α : Type} {convert : Document.Value → Except String α}

/-- Values whose conversions have their trees are converted to entries that have the tree of
the document.
-/
theorem eachValue_tree {Good : α → Prop} {embed : α → Value} {document : Document}
    (converts : ∀ entry ∈ document,
      ∃ other, convert entry.2 = .ok other ∧ Good other ∧ (embed other).tree = entry.2)
    : ∃ converted, eachValue convert document = .ok converted
      ∧ converted.map Prod.fst = document.map Prod.fst
      ∧ (∀ other ∈ converted, Good other.2)
      ∧ entryTrees (converted.map fun other => (other.1, embed other.2)) = document := by
  induction document with
  | nil => exact ⟨[], rfl, rfl, by simp, rfl⟩
  | cons entry document ih =>
      obtain ⟨name, value⟩ := entry
      obtain ⟨other, first, good, tree⟩ := converts (name, value) (by simp)
      obtain ⟨converted, more, names, all, trees⟩ :=
        ih fun entry member => converts entry (List.mem_cons_of_mem _ member)
      refine ⟨(name, other) :: converted, ?_, ?_, ?_, ?_⟩
      · rw [eachValue, first, more]
        rfl
      · rw [List.map_cons, List.map_cons, names]
      · exact List.forall_mem_cons.mpr ⟨good, all⟩
      · rw [List.map_cons, entryTrees, trees, tree]

/-- When all values are converted, so is each. -/
theorem convert_of_eachValue {document : Document} {converted : List (String × α)}
    (all : eachValue convert document = .ok converted)
    : ∀ entry ∈ document, ∃ other, convert entry.2 = .ok other := by
  induction document generalizing converted with
  | nil => simp
  | cons entry document ih =>
      obtain ⟨name, value⟩ := entry
      rw [eachValue] at all
      cases first : convert value with
      | error reason => rw [first] at all; contradiction
      | ok other =>
          cases more : eachValue convert document with
          | error reason => rw [first, more] at all; contradiction
          | ok rest => exact List.forall_mem_cons.mpr ⟨⟨other, first⟩, ih more⟩

end

-----------------------------------------------------------------------------------------
-- Plain documents
-----------------------------------------------------------------------------------------

theorem lineValue_plain {value : Document.Value} (plain : value.Plain)
    : ∃ line, lineValue value = .ok line ∧ line.Plain ∧ line.tree = value := by
  cases plain with
  | text text => exact ⟨.text text, rfl, .text text, rfl⟩
  | boolean value => exact ⟨.boolean value, rfl, .boolean value, rfl⟩
  | natural number held =>
      have least : Document.leastInteger ≤ number := by
        simp only [Document.leastInteger]
        omega
      exact ⟨.integer number, if_pos ⟨least, held⟩, .natural number held, rfl⟩

theorem sectionEntries_plain {value : Document.Value} (plain : value.PlainSection)
    : ∃ entries, sectionEntries value = .ok entries ∧ entries.Plain
      ∧ (Value.table .header entries).tree = value := by
  obtain ⟨named⟩ := plain
  obtain ⟨lines, converted, names, good, trees⟩ :=
    eachValue_tree fun entry member => lineValue_plain (named.each entry member)
  rw [List.map_id'] at trees
  exact ⟨lines, converted, named.of_names names good, by rw [Value.tree, trees]⟩

/-- A value that stands on a line is held. -/
theorem held_of_lineValue {value : Document.Value} {line : Value}
    (converted : lineValue value = .ok line)
    : value.Held := by
  cases value with
  | integer number =>
      rw [lineValue] at converted
      split at converted
      · next within => exact within.2
      · contradiction
  | _ => trivial

theorem held_of_sectionEntries {value : Document.Value} {entries : Entries}
    (converted : sectionEntries value = .ok entries)
    : value.EntriesHeld := by
  cases value with
  | table entries =>
      intro entry member
      obtain ⟨line, converted⟩ := convert_of_eachValue converted entry member
      exact held_of_lineValue converted
  | _ => contradiction

/-- A plain document is parsed from its text. -/
theorem parse_print {document : Document} (plain : document.Plain)
    : ∃ text, print document = .ok text ∧ parse text = .ok document := by
  obtain ⟨sections, converted, names, good, trees⟩ :=
    eachValue_tree fun part member => sectionEntries_plain (plain.each part member)
  have named : Named Entries.Plain sections := plain.of_names names good
  refine ⟨renderSections sections, by rw [print, converted]; rfl, ?_⟩
  rw [parse, read_renderSections named, ← trees]

/-- A document with an integer that is not held is not printed. -/
theorem print_refuses {document : Document} (beyond : ¬document.Held)
    : ∃ reason, print document = .error reason := by
  cases converted : eachValue sectionEntries document with
  | error reason => exact ⟨reason, by rw [print, converted]; rfl⟩
  | ok sections =>
      refine absurd (fun part member => ?_) beyond
      obtain ⟨entries, converted⟩ := convert_of_eachValue converted part member
      exact held_of_sectionEntries converted

theorem format_faithful : format.Faithful where
  parse_print _ := parse_print
  refuses _ := print_refuses

end Toml

end Handheld
