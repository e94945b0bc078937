import Handheld.Proofs.Document
import Handheld.Proofs.Toml.Values

/-! Documents of sections, as they are read back. Main statement: a document of sections with
plain names and values is read as those sections.
-/

namespace Handheld

namespace Toml

-----------------------------------------------------------------------------------------
-- Keys
-----------------------------------------------------------------------------------------

open Document (Bare Named)

/-- A bare name begins with a character that is no blank, no quote and no bracket. -/
theorem front_of_bare {name : String} (bare : Bare name)
    : ∃ c more, name.toList = c :: more ∧ isKeyChar c
      ∧ ∀ other, isKeyChar other = false → c ≠ other := by
  cases letters : name.toList with
  | nil => exact absurd letters bare.nonempty
  | cons c more =>
      have key : isKeyChar c := bare.plain c (by simp [letters])
      refine ⟨c, more, rfl, key, fun other excluded => ?_⟩
      rintro rfl
      simp [key] at excluded

theorem simpleKey_bare {name : String} (bare : Bare name) {rest : List Char}
    (stops : ∀ c ∈ rest.head?, isKeyChar c = false)
    : simpleKey (name.toList ++ rest) = some (name, rest) := by
  obtain ⟨c, more, front, key, other⟩ := front_of_bare bare
  have run : (name.toList ++ rest).span isKeyChar = (name.toList, rest) :=
    span_append bare.plain stops
  have letters : name.toList.isEmpty = false := by simp [front]
  rw [simpleKey, run]
  · simp [letters]
  · rw [front]
    exact fun _ same => other '\"' (by decide) (List.cons.inj same).1
  · rw [front]
    exact fun _ same => other '\'' (by decide) (List.cons.inj same).1

/-- A bare name is a key of one part, up to a character that is no part of it. -/
theorem dottedKey_bare {name : String} (bare : Bare name) {rest : List Char}
    (stops : ∀ c ∈ rest.head?, isKeyChar c = false)
    (single : (skipBlanks rest).head? ≠ some '.')
    : dottedKey (name.toList ++ rest) = some (([], name), skipBlanks rest) := by
  obtain ⟨c, more, front, key, other⟩ := front_of_bare bare
  have unblank : skipBlanks (name.toList ++ rest) = name.toList ++ rest := by
    have space : c ≠ ' ' := other _ (by decide)
    have tab : c ≠ '\t' := other _ (by decide)
    simp [front, skipBlanks, isBlank, space, tab]
  have parts (fuel : Nat)
      : keyParts (fuel + 1) (name.toList ++ rest) = some ([name], skipBlanks rest) := by
    rw [keyParts, unblank, simpleKey_bare bare stops]
    cases behind : skipBlanks rest with
    | nil => simp [behind]
    | cons c more =>
        have undotted : c ≠ '.' := by simpa [behind] using single
        simp [behind, undotted]
  simp [dottedKey, parts, depthLimit, guard]

-----------------------------------------------------------------------------------------
-- Lines
-----------------------------------------------------------------------------------------

/-- A line feed ends a statement. -/
theorem statementEnd_feed (rest : List Char)
    : statementEnd ('\n' :: rest) = some ((), rest) := rfl

/-- A header is read from its line. -/
theorem statement_header {name : String} (bare : Bare name) (rest : List Char)
    : statement ('[' :: (name.toList ++ ']' :: '\n' :: rest))
      = some (.table [] name, rest) := by
  obtain ⟨c, more, front, -, other⟩ := front_of_bare bare
  have key : dottedKey (name.toList ++ ']' :: '\n' :: rest)
      = some (([], name), ']' :: '\n' :: rest) :=
    dottedKey_bare bare (by simp; decide) (show some ']' ≠ some '.' by decide)
  have single : c ≠ '[' := other _ (by decide)
  rw [front] at key ⊢
  simp only [List.cons_append] at key ⊢
  simp [statement, headerLine, single, key, literal, statementEnd_feed]

theorem toList_renderEntry (key : String) (value : Value)
    : (renderEntry (key, value)).toList
      = key.toList ++ ' ' :: '=' :: ' ' :: ((renderScalar value).toList ++ ['\n']) := by
  simp [renderEntry]

/-- A key with its value is read from its lines. -/
theorem statement_entry {key : String} (bare : Bare key) {value : Value} (plain : value.Plain)
    (rest : List Char)
    : statement ((renderEntry (key, value)).toList ++ rest)
      = some (.entry [] key value, rest) := by
  obtain ⟨c, more, front, -, other⟩ := front_of_bare bare
  obtain ⟨first, others, written, -, -, unblank⟩ := renderScalar_front plain
  have text : (renderEntry (key, value)).toList ++ rest
      = key.toList ++ ' ' :: '=' :: ' ' :: ((renderScalar value).toList ++ '\n' :: rest) := by
    simp [toList_renderEntry]
  have name : dottedKey (key.toList ++ ' ' :: '=' :: ' '
      :: ((renderScalar value).toList ++ '\n' :: rest))
      = some (([], key), '=' :: ' ' :: ((renderScalar value).toList ++ '\n' :: rest)) :=
    dottedKey_bare bare (by simp; decide) (show some '=' ≠ some '.' by decide)
  have unspaced : skipBlanks (' ' :: ((renderScalar value).toList ++ '\n' :: rest))
      = (renderScalar value).toList ++ '\n' :: rest := by
    simp [written, skipBlanks, unblank, show isBlank ' ' = true by decide]
  have header : c ≠ '[' := other _ (by decide)
  have entry : statement (key.toList ++ ' ' :: '=' :: ' '
      :: ((renderScalar value).toList ++ '\n' :: rest))
      = entryLine (key.toList ++ ' ' :: '=' :: ' '
      :: ((renderScalar value).toList ++ '\n' :: rest)) := by
    simp [front, statement, header]
  rw [text, entry]
  simp [entryLine, name, literal, unspaced, value_renderScalar plain, statementEnd_feed]

-----------------------------------------------------------------------------------------
-- Drafts
-----------------------------------------------------------------------------------------

/-- The keys of a table. -/
def Entries.keys (entries : Entries) : List String := entries.map Prod.fst

/-- No entry has a key that a table does not have. -/
theorem ne_of_fresh {done : Entries} {name : String} (fresh : name ∉ done.keys)
    : ∀ entry ∈ done, (entry.1 == name) = false := by
  intro entry member
  have differs : entry.1 ≠ name := fun same => fresh (List.mem_map.mpr ⟨entry, member, same⟩)
  simpa using differs

theorem get?_fresh {done : Entries} {name : String} (fresh : name ∉ done.keys)
    : done.get? name = none := by
  rw [Entries.get?, List.find?_eq_none.mpr (by simpa using ne_of_fresh fresh), Option.map_none]

theorem get?_concat {done : Entries} {name : String} (fresh : name ∉ done.keys)
    (value : Value)
    : Entries.get? (done ++ [(name, value)]) name = some value := by
  have before : done.find? (fun entry => entry.1 == name) = none :=
    List.find?_eq_none.mpr (by simpa using ne_of_fresh fresh)
  simp [Entries.get?, before]

theorem set_fresh {done : Entries} {name : String} (fresh : name ∉ done.keys) (value : Value)
    : done.set name value = done ++ [(name, value)] := by
  have absent : done.any (fun entry => entry.1 == name) = false :=
    List.any_eq_false.mpr (by simpa using ne_of_fresh fresh)
  rw [Entries.set, absent]
  rfl

theorem set_concat {done : Entries} {name : String} (fresh : name ∉ done.keys)
    (value changed : Value)
    : Entries.set (done ++ [(name, value)]) name changed = done ++ [(name, changed)] := by
  have kept : done.map (fun entry => if entry.1 = name then (name, changed) else entry)
      = done.map id :=
    List.map_congr_left fun entry member => if_neg (by simpa using ne_of_fresh fresh entry member)
  simp [Entries.set, kept]

/-- A new header begins its table. -/
theorem add_table {done : Entries} {name : String} (fresh : name ∉ done.keys)
    (current : List String)
    : Draft.add ⟨done, current⟩ (.table [] name)
      = .ok ⟨done ++ [(name, .table .header [])], [name]⟩ := by
  simp [Draft.add, openTable, changeAt, get?_fresh fresh, set_fresh fresh]

/-- A new key adds its value to the table of the last header. -/
theorem add_entry {done inner : Entries} {name key : String} (fresh : name ∉ done.keys)
    (new : key ∉ inner.keys) (value : Value)
    : Draft.add ⟨done ++ [(name, .table .header inner)], [name]⟩ (.entry [] key value)
      = .ok ⟨done ++ [(name, .table .header (inner ++ [(key, value)]))], [name]⟩ := by
  simp [Draft.add, addEntry, changeAt, get?_concat fresh, PathUse.enters, get?_fresh new,
    set_fresh new, set_concat fresh]

-----------------------------------------------------------------------------------------
-- Documents
-----------------------------------------------------------------------------------------

/-- Reading a text behind a draft comes to a final draft. -/
def Completes (lines : Nat) (draft : Draft) (text : List Char) (final : Draft) : Prop :=
  ∀ fuel, text.length < fuel → readStatements lines fuel draft text = .ok final

theorem completes_nil (lines : Nat) (draft : Draft) : Completes lines draft [] draft := by
  intro fuel enough
  obtain ⟨fuel, rfl⟩ := Nat.exists_eq_add_of_lt enough
  rfl

/-- A statement is added, and reading goes on behind it. -/
theorem completes_statement {lines : Nat} {draft next final : Draft}
    {text front behind : List Char} {read : Statement} (space : skipSpace text = front)
    (first : statement front = some (read, behind)) (shorter : behind.length < text.length)
    (add : draft.add read = .ok next) (more : Completes lines next behind final)
    : Completes lines draft text final := by
  intro fuel enough
  obtain ⟨fuel, rfl⟩ := Nat.exists_eq_add_of_lt enough
  cases front with
  | nil => exact absurd (first.symm.trans rfl) (Option.some_ne_none _)
  | cons c front =>
      rw [readStatements, space]
      simp only [first, add]
      exact more _ (by omega)

/-- A text that begins with something else than blanks, a comment or a line end. -/
def Solid (text : List Char) : Prop :=
  ∃ c rest, text = c :: rest ∧ isBlank c = false ∧ c ≠ '#' ∧ c ≠ '\n' ∧ c ≠ '\r'

/-- Nothing is dropped before a solid text but the line feed of an empty line. -/
theorem skipSpace_solid {text : List Char} (solid : Solid text)
    : skipSpace text = text ∧ skipSpace ('\n' :: text) = text := by
  obtain ⟨c, rest, rfl, unblank, uncommented, unfed, unreturned⟩ := solid
  have stays (fuel : Nat) : skipLines (fuel + 1) (c :: rest) = c :: rest := by
    have ended := lineEnd_cons unfed unreturned rest
    simp [skipLines, skipBlanks, unblank, skipComment, comment, uncommented, ended]
  exact ⟨stays rest.length, (show skipSpace ('\n' :: c :: rest)
    = skipLines (rest.length + 1) (c :: rest) from rfl).trans (stays rest.length)⟩

/-- Entries with plain values. -/
def Entries.Plain (entries : Entries) : Prop := Named Value.Plain entries

variable {lines : Nat} {done : Entries} {name : String} {rest : List Char} {final : Draft}

theorem solid_of_bare {name : String} (bare : Bare name) (rest : List Char)
    : Solid (name.toList ++ rest) := by
  obtain ⟨c, more, front, -, other⟩ := front_of_bare bare
  exact ⟨c, more ++ rest, by rw [front, List.cons_append],
    by simp [isBlank, other ' ' (by decide), other '\t' (by decide)], other _ (by decide),
    other _ (by decide), other _ (by decide)⟩

/-- Entries are added to the table of the last header, entry by entry. -/
theorem completes_entries (fresh : name ∉ done.keys) (entries inner : Entries)
    (bare : ∀ key ∈ entries.keys, Bare key) (plain : ∀ entry ∈ entries, entry.2.Plain)
    (distinct : (inner ++ entries).keys.Nodup)
    (more : Completes lines ⟨done ++ [(name, .table .header (inner ++ entries))], [name]⟩
      rest final)
    : Completes lines ⟨done ++ [(name, .table .header inner)], [name]⟩
        (entries.flatMap (fun entry => (renderEntry entry).toList) ++ rest) final := by
  induction entries generalizing inner with
  | nil => simpa using more
  | cons entry entries ih =>
      obtain ⟨key, value⟩ := entry
      have text : List.flatMap (fun entry => (renderEntry entry).toList) ((key, value) :: entries)
          ++ rest = (renderEntry (key, value)).toList
            ++ (entries.flatMap (fun entry => (renderEntry entry).toList) ++ rest) := by simp
      have keyed : Bare key := bare key (by simp [Entries.keys])
      have solid : Solid ((renderEntry (key, value)).toList
          ++ (entries.flatMap (fun entry => (renderEntry entry).toList) ++ rest)) := by
        rw [toList_renderEntry, List.append_assoc]
        exact solid_of_bare keyed _
      have new : key ∉ inner.keys := by
        have apart := (List.nodup_append.mp (by simpa [Entries.keys] using distinct)).2.2
        exact fun member => apart key member key (by simp) rfl
      rw [text]
      refine completes_statement (skipSpace_solid solid).1
        (statement_entry keyed (plain (key, value) (by simp)) _) ?_ (add_entry fresh new value)
        (ih (inner ++ [(key, value)])
          (fun other member => bare other (List.mem_cons_of_mem _ member))
          (fun other member => plain other (by simp [member])) (by simpa using distinct)
          (by simpa using more))
      simp [toList_renderEntry]
      omega

theorem toList_renderSection (name : String) (entries : Entries)
    : (renderSection name entries).toList
      = '[' :: (name.toList ++ ']' :: '\n'
        :: entries.flatMap fun entry => (renderEntry entry).toList) := by
  simp [renderSection, List.flatMap_map]

/-- A section is added behind the others. -/
theorem completes_section (bare : Bare name) (fresh : name ∉ done.keys) {entries : Entries}
    (plain : entries.Plain) (current : List String)
    (more : Completes lines ⟨done ++ [(name, .table .header entries)], [name]⟩ rest final)
    : Completes lines ⟨done, current⟩ ((renderSection name entries).toList ++ rest) final
      ∧ Completes lines ⟨done, current⟩
          ('\n' :: ((renderSection name entries).toList ++ rest)) final := by
  have text : (renderSection name entries).toList ++ rest
      = '[' :: (name.toList ++ ']' :: '\n'
        :: (entries.flatMap (fun entry => (renderEntry entry).toList) ++ rest)) := by
    simp [toList_renderSection]
  have solid : Solid ('[' :: (name.toList ++ ']' :: '\n'
      :: (entries.flatMap (fun entry => (renderEntry entry).toList) ++ rest))) :=
    ⟨'[', _, rfl, by decide, by decide, by decide, by decide⟩
  have behind : Completes lines ⟨done ++ [(name, .table .header [])], [name]⟩
      (entries.flatMap (fun entry => (renderEntry entry).toList) ++ rest) final :=
    completes_entries fresh entries [] plain.bare plain.each plain.distinct more
  rw [text]
  constructor
  · refine completes_statement (skipSpace_solid solid).1 (statement_header bare _) ?_
      (add_table fresh current) behind
    simp
    omega
  · refine completes_statement (skipSpace_solid solid).2 (statement_header bare _) ?_
      (add_table fresh current) behind
    simp
    omega

/-- Sections behind empty lines are added in order, section by section. -/
theorem completes_sections (lines : Nat) (sections : List (String × Entries)) (done : Entries)
    (bare : ∀ name ∈ sections.map Prod.fst, Bare name)
    (plain : ∀ part ∈ sections, part.2.Plain)
    (distinct : (done.keys ++ sections.map Prod.fst).Nodup) (current : List String)
    : ∃ last, Completes lines ⟨done, current⟩
        (sections.flatMap fun part => '\n' :: (renderSection part.1 part.2).toList)
        ⟨done ++ sections.map fun part => (part.1, .table .header part.2), last⟩ := by
  induction sections generalizing done current with
  | nil => exact ⟨current, by simpa using completes_nil lines ⟨done, current⟩⟩
  | cons part sections ih =>
      obtain ⟨last, more⟩ := ih (done ++ [(part.1, .table .header part.2)])
        (fun other member => bare other (List.mem_cons_of_mem _ member))
        (fun other member => plain other (by simp [member]))
        (by simpa [Entries.keys] using distinct) [part.1]
      have fresh : part.1 ∉ done.keys := by
        have apart := (List.nodup_append.mp distinct).2.2
        exact fun member => apart part.1 member part.1 (by simp) rfl
      refine ⟨last, ?_⟩
      rw [List.flatMap_cons, List.cons_append]
      refine (completes_section (bare part.1 (by simp)) fresh (plain part (by simp)) current ?_).2
      simpa using more

/-- A text without a byte order mark is read from its first character on. -/
theorem read_unmarked {text : String} {c : Char} {rest : List Char}
    (front : text.toList = c :: rest) (unmarked : c ≠ '\ufeff')
    : read text
      = (readStatements (text.toList.count '\n') (text.toList.length + 1) {} text.toList).map
          Draft.root := by
  simp only [read, front]
  split
  · next marked => exact absurd (List.cons.inj marked).1 unmarked
  · cases readStatements (List.count '\n' (c :: rest)) ((c :: rest).length + 1) {} (c :: rest)
      <;> rfl

/-- A document of plain sections is read as these sections. -/
theorem read_renderSections {sections : List (String × Entries)}
    (plain : Named Entries.Plain sections)
    : read (renderSections sections)
      = .ok (sections.map fun part => (part.1, .table .header part.2)) := by
  cases sections with
  | nil => rfl
  | cons part sections =>
      have text : (renderSections (part :: sections)).toList
          = (renderSection part.1 part.2).toList
            ++ sections.flatMap fun part => '\n' :: (renderSection part.1 part.2).toList := by
        rw [renderSections, List.map_cons, toList_intercalate_cons, List.flatMap_map]
        simp
      obtain ⟨last, more⟩ := completes_sections
        ((renderSections (part :: sections)).toList.count '\n') sections
        [(part.1, .table .header part.2)]
        (fun other member => plain.bare other (List.mem_cons_of_mem _ member))
        (fun other member => plain.each other (by simp [member])) plain.distinct [part.1]
      have fresh : part.1 ∉ Entries.keys [] := by simp [Entries.keys]
      have all := (completes_section (plain.bare part.1 (by simp)) fresh
        (plain.each part (by simp)) [] more).1 _ (Nat.lt_succ_self _)
      rw [← text] at all
      have front : (renderSections (part :: sections)).toList
          = '[' :: (renderSections (part :: sections)).toList.tail := by
        rw [text, toList_renderSection]
        rfl
      rw [read_unmarked front (by decide), all]
      rfl

end Toml

end Handheld
