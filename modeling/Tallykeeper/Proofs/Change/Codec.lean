import Mathlib
import Tallykeeper.Change.Stream
import Tallykeeper.Proofs.Numeral.Decimal

/-!
# Events read back

Every event codec reads back the fields it writes, and so does it after the fields went
through a stream on the server, where each value is written as text: the integer codec
then reads decimal text where it wrote integers, the text codec reads what it wrote, and
the packed form, whose three decimal parts hold no colon, splits back into them.
-/

namespace Tallykeeper
namespace EventCodec

theorem readText_decimal (field : String) (n : Int64) : readText field (Numeral.decimal n) = .ok n := by
  simp [readText, Numeral.parseDecimal, Numeral.parseSigned_encode_decimal]

/-- The three number fields, whatever their values, are read with a reader that takes
each value back. -/
theorem readNumbers_of_reads
    (read : String → FieldValue → Except Fault Int64)
    (written : Int64 → FieldValue)
    (reads : ∀ field n, read field (written n) = .ok n)
    (e : Event) :
    readNumbers [(counterField, written e.counterId), (userField, written e.userId),
      (valueField, written e.value)] read = .ok e := by
  set fs : Fields := [(counterField, written e.counterId), (userField, written e.userId),
    (valueField, written e.value)]
  have counterFound : fs.lookup counterField = some (written e.counterId) := rfl
  have userFound : fs.lookup userField = some (written e.userId) := rfl
  have valueFound : fs.lookup valueField = some (written e.value) := rfl
  simp [readNumbers, field, counterFound, userFound, valueFound, reads, bind, Except.bind, pure,
    Except.pure]

/-- The text form splits at its colons into the three decimal parts. -/
theorem splitColons_render (e : Event) :
    splitColons e.render =
      [Numeral.decimal e.userId, Numeral.decimal e.counterId, Numeral.decimal e.value] := by
  have joined : e.render.toList = [':'].intercalate
      [(Numeral.decimal e.userId).toList, (Numeral.decimal e.counterId).toList,
        (Numeral.decimal e.value).toList] := by
    simp [Event.render, String.toList_append]
  have parts : ([':'].intercalate [(Numeral.decimal e.userId).toList,
      (Numeral.decimal e.counterId).toList, (Numeral.decimal e.value).toList]).splitOn ':' =
        [(Numeral.decimal e.userId).toList, (Numeral.decimal e.counterId).toList,
          (Numeral.decimal e.value).toList] :=
    List.splitOn_intercalate ':' (by simp [Numeral.colon_not_mem_decimal]) (by simp)
  rw [splitColons, joined, parts]
  simp

theorem readPacked_render (e : Event) : readPacked [(payloadField, .text e.render)] = .ok e := by
  simp [readPacked, splitColons_render, readText_decimal, bind, Except.bind, pure, Except.pure]

/-- Every codec reads back the fields it writes. -/
theorem decode_encode (c : EventCodec) (e : Event) : c.decode (c.encode e) = .ok e := by
  by_cases packedCode : c.code = 2
  · simp [decode, encode, packedCode, readPacked_render]
  · by_cases textCode : c.code = 1
    · simp only [decode, encode, textCode, if_true]
      exact readNumbers_of_reads textNumber (fun n => .text (Numeral.decimal n))
        (fun field n => readText_decimal field n) e
    · simp only [decode, encode, packedCode, textCode, if_false]
      exact readNumbers_of_reads anyNumber FieldValue.int64 (fun _ _ => rfl) e

/-- Every codec reads back the fields it writes once a stream has carried them as text. -/
theorem decode_wire (c : EventCodec) (e : Event) :
    c.decode (((c.encode e).map fun (n, v) => (n, v.wire)).map fun (n, v) => (n, .text v)) =
      .ok e := by
  by_cases packedCode : c.code = 2
  · simp [decode, encode, packedCode, FieldValue.wire, readPacked_render]
  · by_cases textCode : c.code = 1
    · simp only [decode, encode, textCode, if_true, FieldValue.wire]
      exact readNumbers_of_reads textNumber (fun n => .text (Numeral.decimal n))
        (fun field n => readText_decimal field n) e
    · simp only [decode, encode, packedCode, textCode, if_false, List.map_cons, List.map_nil,
        FieldValue.wire]
      exact readNumbers_of_reads anyNumber (fun n => .text (Numeral.decimal n))
        (fun field n => readText_decimal field n) e

/-- The integer codec reads the fields the text codec writes. -/
theorem decode_integers_texts (e : Event) : integers.decode (texts.encode e) = .ok e := by
  have textsWrite : texts.encode e =
      [(counterField, .text (Numeral.decimal e.counterId)),
        (userField, .text (Numeral.decimal e.userId)),
        (valueField, .text (Numeral.decimal e.value))] := by
    simp [encode, texts]
  rw [textsWrite]
  exact readNumbers_of_reads anyNumber (fun n => .text (Numeral.decimal n))
    (fun field n => readText_decimal field n) e

/-- Events survive every codec, also when a stream hands each field value back as its text:
each of the 256 codecs reads back the fields it writes and the same fields carried as text,
the integer codec reads what the text codec writes, and the packed payload is the text form
`<user>:<counter>:<value>` of the event. -/
theorem event_codecs_read_back (c : EventCodec) (e : Event) :
    c.decode (c.encode e) = .ok e ∧
      c.decode ((c.encode e).map fun p => (p.1, FieldValue.text p.2.wire)) = .ok e ∧
      integers.decode (texts.encode e) = .ok e ∧
      packed.encode e = [(payloadField,
        .text (Numeral.decimal e.userId ++ ":" ++ Numeral.decimal e.counterId ++ ":" ++
          Numeral.decimal e.value))] := by
  have carried := decode_wire c e
  rw [List.map_map] at carried
  exact ⟨decode_encode c e, carried, decode_integers_texts e, by simp [encode, packed, Event.render]⟩

end EventCodec
end Tallykeeper
