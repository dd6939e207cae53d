import Mathlib
import Tallykeeper.Proofs.Catalog.Lookup

/-!
# The grammar of catalog entries

An entry is checked against five rules, in order: its name is set, it is short, it is
printable, it holds no separator, and its description is short. `Entry.Valid` states the
rules without the checker and `Entry.FirstFlaw e f` says that `f` reports the first rule `e`
breaks. The main statement, `validate_follows_grammar`, says that validation accepts
exactly the valid entries and refuses every other one with the invalid-entry fault of its
first broken rule.

Three notions of character meet in the rules. Whether a name is set looks at ASCII white
space only, so a name of non-ASCII spaces is set; the printability rule then refuses it,
as it refuses every ASCII white space but the space. The rules read a name's bytes as
runes, a stray byte reading as U+FFFD, and both lengths count runes, not bytes.
-/

namespace Tallykeeper
namespace Catalog

open Text (ByteString)

/-- A byte string has runes exactly when it has bytes. -/
theorem runes_eq_nil_iff (b : ByteString) : b.runes = [] ↔ b.bytes = [] := by
  obtain ⟨bytes⟩ := b
  cases bytes with
  | nil => simp [ByteString.runes, Text.Utf8.pieces]
  | cons lead rest =>
      simp only [ByteString.runes, List.map_eq_nil_iff, reduceCtorEq, iff_false]
      rw [Text.Utf8.pieces]
      split <;> simp

/-- The ASCII white space: tab, line feed, vertical tab, form feed, carriage return and
space. -/
def asciiSpaces : List Char := ['\t', '\n', '\x0b', '\x0c', '\r', ' ']

/-- A name is set when it holds a character that is no ASCII white space; in particular it
is not empty. -/
def NameSet (name : ByteString) : Prop :=
  ∃ c ∈ name.runes, c ∉ asciiSpaces

instance : DecidablePred NameSet := fun name =>
  inferInstanceAs (Decidable (∃ c ∈ name.runes, c ∉ asciiSpaces))

theorem isBlank_iff_mem (c : Char) : isBlank c = true ↔ c ∈ asciiSpaces := by
  have byCode : ∀ d : Char, c = d ↔ c.toNat = d.toNat := fun d => Char.toNat_inj.symm
  simp only [isBlank, asciiSpaces, List.mem_cons, List.not_mem_nil, or_false, byCode]
  simp
  omega

/-- The first check refuses exactly the names that are not set. -/
theorem unset_iff_not_nameSet (name : ByteString) :
    (name.bytes.isEmpty || name.runes.all isBlank) = true ↔ ¬ NameSet name := by
  have emptyAllBlank : name.bytes.isEmpty = true → name.runes.all isBlank = true := by
    intro empty
    rw [(runes_eq_nil_iff name).mpr (List.isEmpty_iff.mp empty)]
    rfl
  have onlyBlank : name.runes.all isBlank = true ↔ ¬ NameSet name := by
    simp [NameSet, List.all_eq_true, isBlank_iff_mem]
  constructor
  · intro unset
    rcases Bool.or_eq_true_iff.mp unset with empty | blank
    · exact onlyBlank.mp (emptyAllBlank empty)
    · exact onlyBlank.mp blank
  · intro notSet
    exact Bool.or_eq_true_iff.mpr (.inr (onlyBlank.mpr notSet))

namespace Entry

/-- The rules of a valid entry, each stated on its own. -/
structure Valid (e : Entry) : Prop where
  nameSet : NameSet e.name
  nameShort : e.name.runes.length ≤ 128
  printable : ∀ c ∈ e.name.runes, Text.isPrintable c = true
  noSeparator : ':' ∉ e.name.runes
  descriptionShort : e.description.runes.length ≤ 1024

/-- The flaw that reports the first rule an entry breaks: each rule is reached only when the
rules before it hold. -/
inductive FirstFlaw (e : Entry) : Flaw → Prop
  | nameUnset :
      ¬ NameSet e.name → FirstFlaw e .nameUnset
  | nameTooLong :
      NameSet e.name → 128 < e.name.runes.length → FirstFlaw e .nameTooLong
  | unprintable :
      NameSet e.name → e.name.runes.length ≤ 128 →
      (∃ c ∈ e.name.runes, Text.isPrintable c = false) → FirstFlaw e (.unprintable e.name)
  | separator :
      NameSet e.name → e.name.runes.length ≤ 128 →
      (∀ c ∈ e.name.runes, Text.isPrintable c = true) →
      ':' ∈ e.name.runes → FirstFlaw e (.separator e.name)
  | descriptionTooLong :
      NameSet e.name → e.name.runes.length ≤ 128 →
      (∀ c ∈ e.name.runes, Text.isPrintable c = true) →
      ':' ∉ e.name.runes → 1024 < e.description.runes.length → FirstFlaw e .descriptionTooLong

variable {e : Entry}

/-- The checks, each as its rule: `flaw?` is an `if` chain over these five facts. -/
theorem flaw?_eq_checks :
    e.flaw? =
      if ¬ NameSet e.name then some .nameUnset
      else if 128 < e.name.runes.length then some .nameTooLong
      else if ∃ c ∈ e.name.runes, Text.isPrintable c = false then some (.unprintable e.name)
      else if ':' ∈ e.name.runes then some (.separator e.name)
      else if 1024 < e.description.runes.length then some .descriptionTooLong
      else none := by
  simp only [flaw?, unset_iff_not_nameSet, maxNameLength, maxDescriptionLength, gt_iff_lt,
    Bool.not_eq_true', List.all_eq_false, List.contains_iff_mem]
  simp

/-- Validation finds no flaw exactly in a valid entry. -/
theorem flaw?_eq_none_iff : e.flaw? = none ↔ e.Valid := by
  rw [flaw?_eq_checks]
  constructor
  · intro sound
    split_ifs at sound with unset long unprintable colon longDescription
    exact ⟨unset, Nat.le_of_not_lt long, by simpa using unprintable, colon,
      Nat.le_of_not_lt longDescription⟩
  · intro valid
    have short : ¬ 128 < e.name.runes.length := Nat.not_lt.mpr valid.nameShort
    have shortDescription : ¬ 1024 < e.description.runes.length :=
      Nat.not_lt.mpr valid.descriptionShort
    simp [valid.nameSet, short, valid.noSeparator, shortDescription]
    exact valid.printable

/-- The flaw validation reports is the first rule the entry breaks. -/
theorem flaw?_eq_some_iff {f : Flaw} : e.flaw? = some f ↔ e.FirstFlaw f := by
  have allPrintable : (¬ ∃ c ∈ e.name.runes, Text.isPrintable c = false) ↔
      ∀ c ∈ e.name.runes, Text.isPrintable c = true := by
    simp
  rw [flaw?_eq_checks]
  constructor
  · intro flawed
    -- the first split is on whether the name is set, so the unset name comes last
    split_ifs at flawed with unset long unprintable colon longDescription <;> cases flawed
    · exact .nameTooLong unset long
    · exact .unprintable unset (Nat.le_of_not_lt long) unprintable
    · exact .separator unset (Nat.le_of_not_lt long) (allPrintable.mp unprintable) colon
    · exact .descriptionTooLong unset (Nat.le_of_not_lt long) (allPrintable.mp unprintable) colon
        longDescription
    · exact .nameUnset unset
  · intro first
    cases first with
    | nameUnset unset => rw [if_pos unset]
    | nameTooLong set long => rw [if_neg (not_not.mpr set), if_pos long]
    | unprintable set short dark =>
      rw [if_neg (not_not.mpr set), if_neg (Nat.not_lt.mpr short), if_pos dark]
    | separator set short printable colon =>
      rw [if_neg (not_not.mpr set), if_neg (Nat.not_lt.mpr short),
        if_neg (allPrintable.mpr printable), if_pos colon]
    | descriptionTooLong set short printable colon long =>
      rw [if_neg (not_not.mpr set), if_neg (Nat.not_lt.mpr short),
        if_neg (allPrintable.mpr printable), if_neg colon, if_pos long]

/-- Validation refuses exactly the entries that break a rule, with the fault of the first. -/
theorem validate_eq_error_iff {g : Fault} :
    e.validate = .error g ↔ ∃ f, e.FirstFlaw f ∧ g = f.fault := by
  cases checked : e.flaw? with
  | none =>
    rw [validate_of_sound checked]
    constructor
    · rintro ⟨⟩
    · rintro ⟨f, first, -⟩
      rw [← flaw?_eq_some_iff, checked] at first
      cases first
  | some f =>
    have first := flaw?_eq_some_iff.mp checked
    rw [validate_of_flaw checked]
    constructor
    · rintro ⟨⟩
      exact ⟨f, first, rfl⟩
    · rintro ⟨f', first', rfl⟩
      rw [← flaw?_eq_some_iff, checked] at first'
      cases first'
      rfl

/-- Validation accepts exactly the valid entries. -/
theorem validate_eq_ok_iff : e.validate = .ok () ↔ e.Valid := by
  cases checked : e.flaw? with
  | none => simp [validate_of_sound checked, flaw?_eq_none_iff.mp checked]
  | some f =>
    rw [validate_of_flaw checked]
    have notValid : ¬ e.Valid := by
      rw [← flaw?_eq_none_iff, checked]
      simp
    simp [notValid]

end Entry

/-- Validation accepts exactly the entries whose name is set (not empty and not only ASCII
white space), at most 128 runes long, printable and free of `:`, with a description of
at most 1024 runes. Any other entry is refused with the invalid-entry fault whose
detail names the first of these rules it breaks. -/
theorem validate_follows_grammar (e : Entry) :
    (e.validate = .ok () ↔ e.Valid) ∧
      (∀ g, e.validate = .error g ↔ ∃ f, e.FirstFlaw f ∧ g = f.fault) ∧
      (∀ g, e.validate = .error g → g.is .invalidEntry = true) := by
  refine ⟨Entry.validate_eq_ok_iff, fun _ => Entry.validate_eq_error_iff, ?_⟩
  intro g rejected
  obtain ⟨f, -, rfl⟩ := Entry.validate_eq_error_iff.mp rejected
  exact Flaw.fault_is f

/-- An ideographic space is no ASCII white space, so the name is set, but it is unprintable. -/
example :
    ({ name := .ofString "\u3000" } : Entry).validate =
      .error (Flaw.unprintable (.ofString "\u3000")).fault := by
  decide +kernel

end Catalog
end Tallykeeper
