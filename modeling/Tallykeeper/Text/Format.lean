import Tallykeeper.Text.Quoted

/-!
# Formatting with text arguments

A template takes text arguments in order at its directives. `%s` and `%v` insert the
next argument, `%q` inserts it quoted, and `%%` is a percent sign that takes no argument.
A directive may carry flags (`-` pads on the right), a width (pads with spaces to that
many characters) and a precision (keeps at most that many characters). A directive with
no argument left is written `%!s(MISSING)`, a directive whose letter does not apply to
text `%!d(string=arg)`, a lone `%` at the end `%!(NOVERB)`, and arguments left over are
listed at the end as `%!(EXTRA string=a, string=b)`.
-/

namespace Tallykeeper
namespace Text
namespace Format

/-- The parts of one directive: right padding, width and precision. -/
structure Spec where
  leftAlign : Bool := false
  width : Option Nat := none
  precision : Option Nat := none

/-- Pads or cuts a rendered argument by a directive's width and precision. -/
def Spec.shape (sp : Spec) (cs : List Char) : List Char :=
  let cut := match sp.precision with
    | some p => cs.take p
    | none => cs
  match sp.width with
  | some w =>
    if cut.length ≥ w then cut
    else if sp.leftAlign then cut ++ List.replicate (w - cut.length) ' '
    else List.replicate (w - cut.length) ' ' ++ cut
  | none => cut

/-- The number of digits at the front of a character list. -/
def digitCount (cs : List Char) : Nat :=
  (cs.takeWhile Char.isDigit).length

/-- The value of the digits at the front of a character list. -/
def digitValue (cs : List Char) : Nat :=
  (cs.takeWhile Char.isDigit).foldl (fun n d => n * 10 + (d.toNat - 48)) 0

/-- Reads the flags at the front of a directive: the spec and how many characters they
take. -/
def flags (sp : Spec) : List Char → Spec × Nat
  | c :: rest =>
    if c = '-' then
      let (sp', n) := flags { sp with leftAlign := true } rest
      (sp', n + 1)
    else if c = '+' || c = '#' || c = ' ' || c = '0' then
      let (sp', n) := flags sp rest
      (sp', n + 1)
    else (sp, 0)
  | [] => (sp, 0)

/-- Reads a directive after its `%` up to its letter: the spec and how many characters
it takes. -/
def directive (cs : List Char) : Spec × Nat :=
  let (sp, n1) := flags {} cs
  let r1 := cs.drop n1
  let wl := digitCount r1
  let w := if wl = 0 then none else some (digitValue r1)
  match r1.drop wl with
  | '.' :: r3 =>
    ({ sp with width := w, precision := some (digitValue r3) }, n1 + wl + 1 + digitCount r3)
  | _ => ({ sp with width := w }, n1 + wl)

/-- How a directive with letter `v` shows a text argument. -/
def showArg (sp : Spec) (v : Char) (a : String) : List Char :=
  if v = 's' || v = 'v' then sp.shape a.toList
  else if v = 'q' then sp.shape (Quoted.ofString a).toList
  else ['%', '!', v] ++ "(string=".toList ++ a.toList ++ [')']

/-- Fills a template from its characters, returning the text and the unused arguments. -/
def fill : List Char → List String → List Char × List String
  | [], args => ([], args)
  | '%' :: rest, args =>
    match _h : rest.drop (directive rest).2 with
    | [] => ("%!(NOVERB)".toList, args)
    | '%' :: r' =>
      let (out, left) := fill r' args
      ('%' :: out, left)
    | v :: r' =>
      match args with
      | [] =>
        let (out, left) := fill r' []
        (['%', '!', v] ++ "(MISSING)".toList ++ out, left)
      | a :: more =>
        let (out, left) := fill r' more
        (showArg (directive rest).1 v a ++ out, left)
  | c :: rest, args =>
    let (out, left) := fill rest args
    (c :: out, left)
termination_by cs => cs.length
decreasing_by
  all_goals
    first
    | (have hl := congrArg List.length _h
       simp only [List.length_drop, List.length_cons] at hl
       simp only [List.length_cons]
       omega)
    | simp

/-- A template filled with text arguments. -/
def sprintf (template : String) (args : List String) : String :=
  let (out, left) := fill template.toList args
  let extra := if left.isEmpty then ""
    else "%!(EXTRA " ++ ", ".intercalate (left.map ("string=" ++ ·)) ++ ")"
  String.ofList out ++ extra

end Format
end Text
end Tallykeeper
