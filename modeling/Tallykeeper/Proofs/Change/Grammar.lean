import Mathlib
import Tallykeeper.Change.Codec

/-!
# The grammar of change entries

The event decoder reads exactly the entries laid out by its codec. The integer codec (and
every codec number without one of its own) takes each of `counter-id`, `user-id` and `value`
as a 64-bit, machine-width or 32-bit integer or as decimal text; the text codec takes decimal
text only; the packed codec takes a text `payload` of exactly three colon-separated decimal
parts, read as the user, the counter and the value. Fields besides those a codec reads change
nothing.

The number fields are read by walking a map of their three names, in an order that is not
fixed, and the first field that fails decides the fault. Every order accepts the same entries
with the same event; when exactly one field is defective, every order fails with the fault of
that field, whose message names the field and its defect; and every failure is the fault of a
defective field. The main statement is `decoding_follows_grammar`.
-/

namespace Tallykeeper
namespace EventCodec

/-! ## Forms and layouts -/

/-- A value the integer codec reads as `n`: an integer of 64 bits, of machine width or of
32 bits with that value, or decimal text of it. -/
def IntegerForm (v : FieldValue) (n : Int64) : Prop :=
  v = .int64 n ∨ v = .int n ∨ (∃ m : Int32, v = .int32 m ∧ m.toInt64 = n) ∨
    ∃ s, v = .text s ∧ Numeral.parseDecimal s = .ok n

/-- A value the text codec reads as `n`: decimal text of it. -/
def TextForm (v : FieldValue) (n : Int64) : Prop :=
  ∃ s, v = .text s ∧ Numeral.parseDecimal s = .ok n

/-- The form of the number fields under a codec. -/
def numberForm (c : EventCodec) : FieldValue → Int64 → Prop :=
  if c.code = 1 then TextForm else IntegerForm

/-- The field `name` holds `n` in a form. -/
def Holds (form : FieldValue → Int64 → Prop) (fs : Fields) (name : String) (n : Int64) :
    Prop :=
  ∃ v, fs.lookup name = some v ∧ form v n

/-- The payload is text of exactly three colon-separated decimal parts: the user, the
counter and the value of the event. -/
def PackedLayout (fs : Fields) (e : Event) : Prop :=
  ∃ s, fs.lookup payloadField = some (.text s) ∧
    (splitColons s).map Numeral.parseDecimal = [.ok e.userId, .ok e.counterId, .ok e.value]

/-- The entries a codec reads as an event. -/
def Layout (c : EventCodec) (fs : Fields) (e : Event) : Prop :=
  if c.code = 2 then PackedLayout fs e
  else Holds c.numberForm fs counterField e.counterId ∧
    Holds c.numberForm fs userField e.userId ∧ Holds c.numberForm fs valueField e.value

/-! ## Defects -/

/-- What is wrong with the value of the field `name` for a form, with the fault that
reports it: a value of a type the form does not take, or text that is no decimal numeral. -/
inductive ValueDefect (form : FieldValue → Int64 → Prop) (name : String) :
    FieldValue → Fault → Prop
  | wrongType (v : FieldValue) (notText : ∀ s, v ≠ .text s) (refused : ∀ n, ¬ form v n) :
      ValueDefect form name v
        (.wrap .malformedEvent ("field '" ++ name ++ "' is " ++ v.typeName))
  | unreadable (s : String) (r : Numeral.Refusal)
      (refusal : Numeral.parseDecimal s = .error r) :
      ValueDefect form name (.text s)
        (.wrap .malformedEvent ("field '" ++ name ++ "': " ++ r.message))

/-- What is wrong with the field `name` of an entry: it is missing, or its value is
defective. -/
inductive FieldDefect (form : FieldValue → Int64 → Prop) (fs : Fields) (name : String) :
    Fault → Prop
  | missing (absent : fs.lookup name = none) :
      FieldDefect form fs name (.wrap .malformedEvent ("missing field '" ++ name ++ "'"))
  | present (v : FieldValue) (x : Fault) (found : fs.lookup name = some v)
      (defect : ValueDefect form name v x) :
      FieldDefect form fs name x

/-- What is wrong with a packed payload: it is missing, it is no text, it does not split into
three parts, or one of its parts is no decimal numeral while the parts before it are. -/
inductive PackedDefect (fs : Fields) : Fault → Prop
  | missing (absent : fs.lookup payloadField = none) :
      PackedDefect fs (.wrap .malformedEvent ("missing field '" ++ payloadField ++ "'"))
  | wrongType (v : FieldValue) (found : fs.lookup payloadField = some v)
      (notText : ∀ s, v ≠ .text s) :
      PackedDefect fs (.wrap .malformedEvent ("field '" ++ payloadField ++ "' is " ++ v.typeName))
  | parts (s : String) (found : fs.lookup payloadField = some (.text s))
      (count : (splitColons s).length ≠ 3) :
      PackedDefect fs (.wrap .malformedEvent
        ("payload '" ++ s ++ "' has " ++ toString (splitColons s).length ++ " parts"))
  | unreadable (s : String) (before : List String) (part : String) (after : List String)
      (r : Numeral.Refusal) (found : fs.lookup payloadField = some (.text s))
      (split : splitColons s = before ++ part :: after)
      (three : before.length + after.length = 2)
      (readable : ∀ p ∈ before, ∃ n, Numeral.parseDecimal p = .ok n)
      (refusal : Numeral.parseDecimal part = .error r) :
      PackedDefect fs (.wrap .malformedEvent ("field '" ++ payloadField ++ "': " ++ r.message))

/-- The names of the number fields. -/
def numberFields : List String := [counterField, userField, valueField]

/-- The fields a codec reads. -/
def reads (c : EventCodec) : List String :=
  if c.code = 2 then [payloadField] else numberFields

/-- A defect of the field `name` under a codec, with the fault that reports it. -/
def Defect (c : EventCodec) (fs : Fields) (name : String) (x : Fault) : Prop :=
  if c.code = 2 then PackedDefect fs x else FieldDefect c.numberForm fs name x

/-! ## Reading in any order -/

/-- The number of an event that a field name stands for. -/
def numberOf (e : Event) (name : String) : Int64 :=
  if name = counterField then e.counterId else if name = userField then e.userId else e.value

/-- Stores a number into the event field a name stands for; other names store nothing. -/
def putNumber (e : Event) (name : String) (n : Int64) : Event :=
  if name = counterField then { e with counterId := n }
  else if name = userField then { e with userId := n }
  else if name = valueField then { e with value := n } else e

/-- Reads the number fields named by `order` one after another into an event; the first
field that is missing or does not read decides the fault. -/
def readNumbersIn (fs : Fields) (read : String → FieldValue → Except Fault Int64) :
    List String → Event → Except Fault Event
  | [], e => .ok e
  | name :: rest, e =>
    match field fs name read with
    | .error f => .error f
    | .ok n => readNumbersIn fs read rest (putNumber e name n)

/-- The reader of the number fields under a codec. -/
def numberReader (c : EventCodec) : String → FieldValue → Except Fault Int64 :=
  if c.code = 1 then textNumber else anyNumber

/-- Decodes an entry, reading its number fields in the given order. -/
def decodeIn (order : List String) (c : EventCodec) (fs : Fields) : Except Fault Event :=
  if c.code = 2 then readPacked fs else readNumbersIn fs c.numberReader order {}

/-! ## Readers of one value -/

/-- A reader of number fields that accepts exactly the values of a form and refuses every
other value with the fault of its defect. -/
structure ReadsForm (read : String → FieldValue → Except Fault Int64)
    (form : FieldValue → Int64 → Prop) : Prop where
  ok_iff : ∀ name v n, read name v = .ok n ↔ form v n
  error_iff : ∀ name v x, read name v = .error x ↔ ValueDefect form name v x

theorem valueDefect_iff
    {form : FieldValue → Int64 → Prop}
    {name : String}
    {v : FieldValue}
    {x : Fault} :
    ValueDefect form name v x ↔
      ((∀ s, v ≠ .text s) ∧ (∀ n, ¬ form v n) ∧
        x = .wrap .malformedEvent ("field '" ++ name ++ "' is " ++ v.typeName)) ∨
      ∃ s r, v = .text s ∧ Numeral.parseDecimal s = .error r ∧
        x = .wrap .malformedEvent ("field '" ++ name ++ "': " ++ r.message) := by
  constructor
  · rintro (⟨_, notText, refused⟩ | ⟨s, r, refusal⟩)
    · exact .inl ⟨notText, refused, rfl⟩
    · exact .inr ⟨s, r, rfl, refusal, rfl⟩
  · rintro (⟨notText, refused, rfl⟩ | ⟨s, r, rfl, refusal, rfl⟩)
    · exact .wrongType v notText refused
    · exact .unreadable s r refusal

theorem readText_eq_ok_iff
    {name s : String}
    {n : Int64} :
    readText name s = .ok n ↔ Numeral.parseDecimal s = .ok n := by
  unfold readText
  cases Numeral.parseDecimal s <;> simp

theorem readText_eq_error_iff
    {name s : String}
    {x : Fault} :
    readText name s = .error x ↔
      ∃ r, Numeral.parseDecimal s = .error r ∧
        x = .wrap .malformedEvent ("field '" ++ name ++ "': " ++ r.message) := by
  unfold readText
  cases Numeral.parseDecimal s <;> simp [eq_comm]

theorem anyNumber_reads : ReadsForm anyNumber IntegerForm where
  ok_iff name v n := by
    cases v <;> simp [anyNumber, IntegerForm, readText_eq_ok_iff]
  error_iff name v x := by
    cases v with
    | text s => simp [anyNumber, valueDefect_iff, readText_eq_error_iff]
    | _ => simp [anyNumber, IntegerForm, valueDefect_iff, wrongType, eq_comm]

theorem textNumber_reads : ReadsForm textNumber TextForm where
  ok_iff name v n := by
    cases v <;> simp [textNumber, TextForm, readText_eq_ok_iff]
  error_iff name v x := by
    cases v with
    | text s => simp [textNumber, valueDefect_iff, readText_eq_error_iff]
    | _ => simp [textNumber, TextForm, valueDefect_iff, wrongType, eq_comm]

theorem numberReader_reads (c : EventCodec) : ReadsForm c.numberReader c.numberForm := by
  unfold numberReader numberForm
  split
  · exact textNumber_reads
  · exact anyNumber_reads

/-! ## Reading one field -/

section Field

variable {read : String → FieldValue → Except Fault Int64} {form : FieldValue → Int64 → Prop}

theorem fieldDefect_iff
    {fs : Fields}
    {name : String}
    {x : Fault} :
    FieldDefect form fs name x ↔
      (fs.lookup name = none ∧ x = .wrap .malformedEvent ("missing field '" ++ name ++ "'")) ∨
      ∃ v, fs.lookup name = some v ∧ ValueDefect form name v x := by
  constructor
  · rintro (absent | ⟨v, _, found, defect⟩)
    · exact .inl ⟨absent, rfl⟩
    · exact .inr ⟨v, found, defect⟩
  · rintro (⟨absent, rfl⟩ | ⟨v, found, defect⟩)
    · exact .missing absent
    · exact .present v x found defect

theorem field_eq_ok_iff
    (spec : ReadsForm read form)
    {fs : Fields}
    {name : String}
    {n : Int64} :
    field fs name read = .ok n ↔ Holds form fs name n := by
  unfold field Holds
  cases fs.lookup name <;> simp [spec.ok_iff]

theorem field_eq_error_iff
    (spec : ReadsForm read form)
    {fs : Fields}
    {name : String}
    {x : Fault} :
    field fs name read = .error x ↔ FieldDefect form fs name x := by
  rw [fieldDefect_iff]
  unfold field
  cases fs.lookup name <;> simp [spec.error_iff, eq_comm]

/-- A field reads the same from two entries that hold the same value under its name. -/
theorem field_congr
    {fs gs : Fields}
    {name : String}
    (same : gs.lookup name = fs.lookup name) :
    field gs name read = field fs name read := by
  simp only [field, same]

end Field

/-! ## The numbers of an event by field name -/

@[simp] theorem numberOf_counterField (e : Event) : numberOf e counterField = e.counterId := by
  simp [numberOf]

@[simp] theorem numberOf_userField (e : Event) : numberOf e userField = e.userId := by
  simp [numberOf, userField, counterField]

@[simp] theorem numberOf_valueField (e : Event) : numberOf e valueField = e.value := by
  simp [numberOf, valueField, userField, counterField]

theorem numberOf_putNumber
    {e : Event}
    {name other : String}
    {n : Int64}
    (named : name ∈ numberFields) :
    numberOf (putNumber e other n) name = if name = other then n else numberOf e name := by
  simp only [numberFields, List.mem_cons, List.not_mem_nil, or_false] at named
  rcases named with rfl | rfl | rfl <;>
    by_cases h1 : other = counterField <;> by_cases h2 : other = userField <;>
      by_cases h3 : other = valueField <;>
      simp_all [numberOf, putNumber, counterField, userField, valueField, eq_comm]

/-- Storing the numbers of `order` leaves each number field at the number of its name when
the name is in `order`, and as it was otherwise. -/
theorem numberOf_foldl_putNumber
    (val : String → Int64)
    {name : String}
    (named : name ∈ numberFields)
    (order : List String)
    (e : Event) :
    numberOf (order.foldl (fun acc other => putNumber acc other (val other)) e) name =
      if name ∈ order then val name else numberOf e name := by
  induction order generalizing e with
  | nil => simp
  | cons other rest ih =>
    rw [List.foldl_cons, ih, numberOf_putNumber named]
    by_cases here : name = other
    · subst here
      simp
    · by_cases later : name ∈ rest <;> simp [here, later]

/-- Two events with the same number under every field name are equal. -/
theorem event_eq_of_numberOf
    {e e' : Event}
    (same : ∀ name ∈ numberFields, numberOf e name = numberOf e' name) :
    e = e' := by
  have counter := same counterField (by simp [numberFields])
  have user := same userField (by simp [numberFields])
  have value := same valueField (by simp [numberFields])
  simp only [numberOf_counterField, numberOf_userField, numberOf_valueField] at counter user value
  cases e
  cases e'
  simp_all

/-! ## Reading the number fields in an order -/

section Order

variable {fs : Fields} {read : String → FieldValue → Except Fault Int64}

/-- When every field of `order` reads, the event holds the numbers read. -/
theorem readNumbersIn_of_reads
    (val : String → Int64)
    (order : List String)
    (e : Event)
    (reads : ∀ name ∈ order, field fs name read = .ok (val name)) :
    readNumbersIn fs read order e =
      .ok (order.foldl (fun acc other => putNumber acc other (val other)) e) := by
  induction order generalizing e with
  | nil => rfl
  | cons name rest ih =>
    have first := reads name (List.mem_cons_self ..)
    simp only [readNumbersIn, first, List.foldl_cons]
    exact ih _ fun other member => reads other (List.mem_cons_of_mem _ member)

/-- A reading that succeeds read every field of `order`. -/
theorem reads_of_readNumbersIn
    {order : List String}
    {e e' : Event}
    (done : readNumbersIn fs read order e = .ok e') :
    ∀ name ∈ order, ∃ n, field fs name read = .ok n := by
  induction order generalizing e with
  | nil => simp
  | cons name rest ih =>
    simp only [readNumbersIn] at done
    cases first : field fs name read with
    | error f => simp [first] at done
    | ok n =>
      rw [first] at done
      intro other member
      rcases List.mem_cons.1 member with rfl | later
      · exact ⟨n, first⟩
      · exact ih done other later

/-- A reading that fails fails with the fault of a field of `order`. -/
theorem field_fails_of_readNumbersIn
    {order : List String}
    {e : Event}
    {x : Fault}
    (failed : readNumbersIn fs read order e = .error x) :
    ∃ name ∈ order, field fs name read = .error x := by
  induction order generalizing e with
  | nil => simp [readNumbersIn] at failed
  | cons name rest ih =>
    simp only [readNumbersIn] at failed
    cases first : field fs name read with
    | error f =>
      rw [first] at failed
      cases failed
      exact ⟨name, List.mem_cons_self .., first⟩
    | ok n =>
      rw [first] at failed
      obtain ⟨other, member, fails⟩ := ih failed
      exact ⟨other, List.mem_cons_of_mem _ member, fails⟩

/-- When one field of `order` fails and every other reads, the reading fails with that
field's fault. -/
theorem readNumbersIn_eq_error
    {order : List String}
    {name : String}
    {x : Fault}
    (failing : field fs name read = .error x)
    (member : name ∈ order)
    (others : ∀ other ∈ order, other ≠ name → ∃ n, field fs other read = .ok n)
    (e : Event) :
    readNumbersIn fs read order e = .error x := by
  induction order generalizing e with
  | nil => simp at member
  | cons first rest ih =>
    by_cases here : first = name
    · subst here
      simp [readNumbersIn, failing]
    · obtain ⟨n, reads⟩ := others first (List.mem_cons_self ..) here
      have later : name ∈ rest := (List.mem_cons.1 member).resolve_left (Ne.symm here)
      simp only [readNumbersIn, reads]
      exact ih later (fun other inRest => others other (List.mem_cons_of_mem _ inRest)) _

/-- Reading depends on an entry only through the values under the names of `order`. -/
theorem readNumbersIn_congr
    {gs : Fields}
    {order : List String}
    (same : ∀ name ∈ order, gs.lookup name = fs.lookup name)
    (e : Event) :
    readNumbersIn gs read order e = readNumbersIn fs read order e := by
  induction order generalizing e with
  | nil => rfl
  | cons name rest ih =>
    simp only [readNumbersIn, field_congr (same name (List.mem_cons_self ..)),
      ih fun other member => same other (List.mem_cons_of_mem _ member)]

/-- The codec's own reader takes the counter, the user and the value in turn. -/
theorem readNumbers_eq_readNumbersIn :
    readNumbers fs read = readNumbersIn fs read numberFields {} := by
  simp only [readNumbers, numberFields, readNumbersIn, bind, Except.bind, pure, Except.pure]
  cases field fs counterField read <;> cases field fs userField read <;>
    cases field fs valueField read <;>
    simp [putNumber, counterField, userField, valueField]

/-- In any order of the three names, reading succeeds with an event exactly when every number
field reads as that event's number. -/
theorem readNumbersIn_eq_ok_iff
    {order : List String}
    (walk : order.Perm numberFields)
    {e : Event} :
    readNumbersIn fs read order {} = .ok e ↔
      ∀ name ∈ numberFields, field fs name read = .ok (numberOf e name) := by
  constructor
  · intro done name named
    -- every field read; the numbers read are those of the event the reading built
    let val : String → Int64 := fun other => ((field fs other read).toOption).getD 0
    have reads : ∀ other ∈ order, field fs other read = .ok (val other) := by
      intro other member
      obtain ⟨n, found⟩ := reads_of_readNumbersIn done other member
      simp only [val, found]
      rfl
    have built := readNumbersIn_of_reads val order {} reads
    rw [done, Except.ok.injEq] at built
    have inOrder : name ∈ order := walk.mem_iff.2 named
    rw [reads name inOrder, built, numberOf_foldl_putNumber val named, if_pos inOrder]
  · intro reads
    have inFields : ∀ name ∈ order, field fs name read = .ok (numberOf e name) :=
      fun name member => reads name (walk.mem_iff.1 member)
    rw [readNumbersIn_of_reads (numberOf e) order {} inFields]
    congr 1
    apply event_eq_of_numberOf
    intro name named
    rw [numberOf_foldl_putNumber _ named, if_pos (walk.mem_iff.2 named)]

end Order

/-! ## The packed payload -/

theorem readPacked_of_parts
    {fs : Fields}
    {s u c v : String}
    (found : fs.lookup payloadField = some (.text s))
    (split : splitColons s = [u, c, v]) :
    readPacked fs = (do
      let user ← readText payloadField u
      let counter ← readText payloadField c
      let value ← readText payloadField v
      return { counterId := counter, userId := user, value := value }) := by
  simp only [readPacked, found, split]

theorem readPacked_eq_ok_iff
    {fs : Fields}
    {e : Event} :
    readPacked fs = .ok e ↔ PackedLayout fs e := by
  unfold PackedLayout
  obtain ⟨counterId, userId, value⟩ := e
  cases found : fs.lookup payloadField with
  | none => simp [readPacked, found]
  | some value =>
    cases value with
    | text s =>
      simp only [Option.some.injEq, FieldValue.text.injEq, exists_eq_left']
      cases split : splitColons s with
      | nil => simp [readPacked, found, split]
      | cons u rest =>
        match rest with
        | [] => simp [readPacked, found, split]
        | [c] => simp [readPacked, found, split]
        | [c, v] =>
          rw [readPacked_of_parts found split]
          simp only [bind, Except.bind, pure, Except.pure, List.map_cons, List.map_nil,
            List.cons.injEq, and_true]
          cases hu : Numeral.parseDecimal u <;> cases hc : Numeral.parseDecimal c <;>
            cases hv : Numeral.parseDecimal v <;>
            simp [readText, hu, hc, hv, eq_comm, and_comm, and_left_comm]
        | c :: v :: w :: more => simp [readPacked, found, split]
    | _ => simp [readPacked, found, wrongType]

/-- A payload that does not split into three parts fails with its count of parts. -/
theorem readPacked_of_count
    {fs : Fields}
    {s : String}
    (found : fs.lookup payloadField = some (.text s))
    (count : (splitColons s).length ≠ 3) :
    readPacked fs = .error (.wrap .malformedEvent
      ("payload '" ++ s ++ "' has " ++ toString (splitColons s).length ++ " parts")) := by
  simp only [readPacked, found]
  split
  · simp_all
  · rfl

/-- Every failure of the packed reader is a defect of the payload. -/
theorem packedDefect_of_readPacked
    {fs : Fields}
    {x : Fault}
    (failed : readPacked fs = .error x) :
    PackedDefect fs x := by
  cases found : fs.lookup payloadField with
  | none =>
    simp only [readPacked, found, Except.error.injEq] at failed
    subst failed
    exact .missing found
  | some value =>
    cases value with
    | text s =>
      by_cases three : (splitColons s).length = 3
      · obtain ⟨u, c, v, split⟩ := List.length_eq_three.1 three
        rw [readPacked_of_parts found split] at failed
        -- the parts are read in turn: the first that is no numeral decides the fault
        cases hu : Numeral.parseDecimal u with
        | error r =>
          simp only [readText, hu, bind, Except.bind, Except.error.injEq] at failed
          subst failed
          exact .unreadable s [] u [c, v] r found split rfl (by simp) hu
        | ok nu =>
          cases hc : Numeral.parseDecimal c with
          | error r =>
            simp only [readText, hu, hc, bind, Except.bind, Except.error.injEq] at failed
            subst failed
            exact .unreadable s [u] c [v] r found split rfl (by simp [hu]) hc
          | ok nc =>
            cases hv : Numeral.parseDecimal v with
            | error r =>
              simp only [readText, hu, hc, hv, bind, Except.bind, Except.error.injEq] at failed
              subst failed
              exact .unreadable s [u, c] v [] r found split rfl (by simp [hu, hc]) hv
            | ok nv => simp [readText, hu, hc, hv, bind, Except.bind, pure, Except.pure] at failed
      · rw [readPacked_of_count found three, Except.error.injEq] at failed
        subst failed
        exact .parts s found three
    | _ =>
      simp only [readPacked, found, wrongType, Except.error.injEq] at failed
      subst failed
      exact .wrongType _ found (by simp)

/-- Every defect of the payload is how the packed reader fails. -/
theorem readPacked_of_packedDefect
    {fs : Fields}
    {x : Fault}
    (defect : PackedDefect fs x) :
    readPacked fs = .error x := by
  cases defect with
  | missing absent => simp [readPacked, absent]
  | wrongType v found notText =>
    cases v with
    | text s => exact absurd rfl (notText s)
    | _ => simp [readPacked, found, wrongType]
  | parts s found count => exact readPacked_of_count found count
  | unreadable s before part after r found split three readable refusal =>
    -- the defective part is the first, the second or the third
    rcases before with _ | ⟨u, _ | ⟨c, _ | ⟨b, more⟩⟩⟩
    · obtain ⟨c, v, rfl⟩ := List.length_eq_two.1 (by simpa using three)
      simp [readPacked_of_parts found split, readText, refusal, bind, Except.bind]
    · obtain ⟨v, rfl⟩ : ∃ v, after = [v] :=
        List.length_eq_one_iff.1 (by simp at three; omega)
      obtain ⟨nu, hu⟩ := readable u (by simp)
      simp [readPacked_of_parts found split, readText, hu, refusal, bind, Except.bind]
    · obtain rfl : after = [] := List.eq_nil_of_length_eq_zero (by simpa using three)
      obtain ⟨nu, hu⟩ := readable u (by simp)
      obtain ⟨nc, hc⟩ := readable c (by simp)
      simp [readPacked_of_parts found split, readText, hu, hc, refusal, bind, Except.bind]
    · simp at three
      omega

theorem readPacked_eq_error_iff
    {fs : Fields}
    {x : Fault} :
    readPacked fs = .error x ↔ PackedDefect fs x :=
  ⟨packedDefect_of_readPacked, readPacked_of_packedDefect⟩

/-- The packed reader depends on an entry only through its payload. -/
theorem readPacked_congr
    {fs gs : Fields}
    (same : gs.lookup payloadField = fs.lookup payloadField) :
    readPacked gs = readPacked fs := by
  simp only [readPacked, same]

/-! ## Decoding in any order -/

section Decoding

variable {c : EventCodec} {fs : Fields} {order : List String}

/-- The codec's own decoder reads the counter, the user and the value in turn. -/
theorem decode_eq_decodeIn (c : EventCodec) (fs : Fields) :
    c.decode fs = c.decodeIn numberFields fs := by
  unfold decode decodeIn numberReader
  by_cases packedCode : c.code = 2
  · simp [packedCode]
  · by_cases textCode : c.code = 1 <;> simp [packedCode, textCode, readNumbers_eq_readNumbersIn]

theorem decodeIn_eq_ok_iff
    (walk : order.Perm numberFields)
    {e : Event} :
    c.decodeIn order fs = .ok e ↔ c.Layout fs e := by
  unfold decodeIn Layout
  split
  · exact readPacked_eq_ok_iff
  · rw [readNumbersIn_eq_ok_iff walk]
    simp [numberFields, field_eq_ok_iff (numberReader_reads c)]

theorem decodeIn_eq_error_of_defect
    (walk : order.Perm numberFields)
    {name : String}
    {x : Fault}
    (named : name ∈ c.reads)
    (defect : c.Defect fs name x)
    (others : ∀ other ∈ c.reads, other ≠ name → ∃ n, Holds c.numberForm fs other n) :
    c.decodeIn order fs = .error x := by
  unfold decodeIn
  by_cases packedCode : c.code = 2
  · simp only [Defect, packedCode, if_true] at defect
    simp only [packedCode, if_true]
    exact readPacked_of_packedDefect defect
  · simp only [Defect, packedCode, if_false] at defect
    simp only [reads, packedCode, if_false] at named others
    simp only [packedCode, if_false]
    refine readNumbersIn_eq_error ((field_eq_error_iff (numberReader_reads c)).2 defect)
      (walk.mem_iff.2 named) ?_ {}
    intro other member differs
    obtain ⟨n, holds⟩ := others other (walk.mem_iff.1 member) differs
    exact ⟨n, (field_eq_ok_iff (numberReader_reads c)).2 holds⟩

theorem defect_of_decodeIn
    (walk : order.Perm numberFields)
    {x : Fault}
    (failed : c.decodeIn order fs = .error x) :
    ∃ name ∈ c.reads, c.Defect fs name x := by
  unfold decodeIn at failed
  by_cases packedCode : c.code = 2
  · simp only [packedCode, if_true] at failed
    exact ⟨payloadField, by simp [reads, packedCode],
      by simpa [Defect, packedCode] using packedDefect_of_readPacked failed⟩
  · simp only [packedCode, if_false] at failed
    obtain ⟨name, member, fails⟩ := field_fails_of_readNumbersIn failed
    refine ⟨name, by simpa [reads, packedCode] using walk.mem_iff.1 member, ?_⟩
    simpa [Defect, packedCode] using (field_eq_error_iff (numberReader_reads c)).1 fails

theorem decodeIn_congr
    (walk : order.Perm numberFields)
    {gs : Fields}
    (same : ∀ name ∈ c.reads, gs.lookup name = fs.lookup name) :
    c.decodeIn order gs = c.decodeIn order fs := by
  unfold decodeIn
  by_cases packedCode : c.code = 2
  · simp only [reads, packedCode, if_true, List.mem_singleton, forall_eq] at same
    simp only [packedCode, if_true, readPacked_congr same]
  · simp only [reads, packedCode, if_false] at same
    simp only [packedCode, if_false]
    exact readNumbersIn_congr (fun name member => same name (walk.mem_iff.1 member)) {}

end Decoding

/-- The event decoder accepts exactly its codec's layout, whatever order it reads the number
fields in. The codec's own decoder is the reading in the order counter, user, value. In every
order of the three names, an entry reads as an event exactly when it is laid out as that
event; when exactly one field is defective and every other field the codec reads holds a
number, the reading fails with the fault of that field, which names the field and its
defect; every failure is the fault of a defective field; and fields besides those the codec
reads change nothing. -/
theorem decoding_follows_grammar
    (c : EventCodec)
    (fs : Fields)
    (order : List String)
    (walk : order.Perm numberFields) :
    c.decode fs = c.decodeIn numberFields fs ∧
      (∀ e, c.decodeIn order fs = .ok e ↔ c.Layout fs e) ∧
      (∀ name ∈ c.reads, ∀ x, c.Defect fs name x →
        (∀ other ∈ c.reads, other ≠ name → ∃ n, Holds c.numberForm fs other n) →
        c.decodeIn order fs = .error x) ∧
      (∀ x, c.decodeIn order fs = .error x → ∃ name ∈ c.reads, c.Defect fs name x) ∧
      (∀ gs : Fields, (∀ name ∈ c.reads, gs.lookup name = fs.lookup name) →
        c.decodeIn order gs = c.decodeIn order fs) :=
  ⟨decode_eq_decodeIn c fs, fun _ => decodeIn_eq_ok_iff walk,
    fun _ named _ defect others => decodeIn_eq_error_of_defect walk named defect others,
    fun _ failed => defect_of_decodeIn walk failed, fun _ same => decodeIn_congr walk same⟩

/-- An entry whose user field is text that is no numeral, beside a valid counter, a valid
value and a field no codec reads: reading the user first, the integer codec fails with the
fault naming the user field and the refused text. -/
theorem decoding_follows_grammar_user_first :
    [userField, counterField, valueField].Perm numberFields ∧
      integers.decodeIn [userField, counterField, valueField]
          [(valueField, .int64 2), (userField, .text "x"), ("note", .float),
            (counterField, .int 1)] =
        .error (.wrap .malformedEvent
          ("field 'user-id': " ++ Numeral.Refusal.message ⟨.signed, [120], .invalid⟩)) := by
  have walk : [userField, counterField, valueField].Perm numberFields := List.Perm.swap _ _ _
  refine ⟨walk, (decoding_follows_grammar integers _ _ walk).2.2.1 userField
    (by simp [reads, integers, numberFields]) _ ?_ ?_⟩
  · simp only [Defect, integers]
    exact .present (.text "x") _ rfl (.unreadable "x" _ rfl)
  · intro other member differs
    simp [reads, integers, numberFields] at member
    rcases member with rfl | rfl | rfl
    · exact ⟨1, .int 1, rfl, by simp [numberForm, integers, IntegerForm]⟩
    · exact absurd rfl differs
    · exact ⟨2, .int64 2, rfl, by simp [numberForm, integers, IntegerForm]⟩

end EventCodec
end Tallykeeper
