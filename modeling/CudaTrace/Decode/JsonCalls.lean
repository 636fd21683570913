import CudaTrace.Base.JsonContext
import CudaTrace.Decode.Json

/-!
# What a built object reads as

The calls that build a `JsonObject`, with any text for the raw values. When these are JSON texts,
the object reads as the members of the calls, in their order.
-/

namespace CudaTrace.Decode
open CudaTrace.Base
open CudaTrace.Ptrace (U64 I64)

/-- One call of a `field_*` method. -/
inductive FieldCall where
  | str (key value : String)
  | bool (key : String) (value : Bool)
  | i64 (key : String) (value : I64)
  | u64 (key : String) (value : U64)
  | raw (key rawJson : String)

namespace FieldCall

def push (o : JsonObject) : FieldCall → JsonObject
  | str key value => o.fieldStr key value
  | bool key value => o.fieldBool key value
  | i64 key value => o.fieldI64 key value
  | u64 key value => o.fieldU64 key value
  | raw key rawJson => o.fieldRaw key rawJson

def key : FieldCall → String
  | str key _ | bool key _ | i64 key _ | u64 key _ | raw key _ => key

/-- The value as it is written. -/
def text : FieldCall → String
  | str _ value => jsonQuote value
  | bool _ value => if value then "true" else "false"
  | i64 _ value => toString value.toInt
  | u64 _ value => value.toNat.repr
  | raw _ rawJson => rawJson

/-- The value that is meant; a raw text has one when it is a JSON text. -/
def value : FieldCall → Option Json
  | str _ value => some (.str value)
  | bool _ value => some (.bool value)
  | i64 _ value => some (.num value.toInt 0)
  | u64 _ value => some (.num value.toNat 0)
  | raw _ rawJson => Json.parse rawJson

def member (c : FieldCall) : Option (String × Json) := c.value.map fun v => (c.key, v)

theorem push_eq (o : JsonObject) (c : FieldCall) :
    c.push o = (o.pushFieldKey c.key).push c.text := by
  cases c <;> rfl

theorem yields {c : FieldCall} {v : Json} (h : c.value = some v) : Json.Yields c.text.toList v := by
  cases c with
  | str key value =>
    cases h
    exact (quotes_jsonQuote value).reads.yields
  | bool key value =>
    cases h
    exact (Json.reads_bool value).yields
  | i64 key value =>
    cases h
    exact (Json.reads_int value.toInt).yields
  | u64 key value =>
    cases h
    exact (Json.reads_nat value.toNat).yields
  | raw key rawJson => exact Json.yields_of_parse h

end FieldCall

/-- The text of an object after these calls. -/
def builtText (calls : List FieldCall) : String := (calls.foldl FieldCall.push JsonObject.new).finish

def Field.call : Field → FieldCall
  | .str key value => .str key value
  | .bool key value => .bool key value
  | .i64 key value => .i64 key value
  | .u64 key value => .u64 key value
  | .raw key fragment => .raw key fragment.text

/-- The objects of the decoders are built so. -/
theorem objectText_calls (fs : List Field) : objectText fs = builtText (fs.map Field.call) := by
  have hpush : ∀ o f, (Field.call f).push o = Field.push o f := by
    intro o f
    cases f <;> rfl
  rw [objectText, builtText, List.foldl_map]
  simp only [hpush]

/-- Calls whose values are known spell the members of an object. -/
theorem exists_spelled {calls : List FieldCall} {members : List (String × Json)}
    (h : calls.mapM FieldCall.member = some members) :
    ∃ ms : List Json.SpelledMember,
      ms.map Json.SpelledMember.chars = calls.map (fun c => memberChars c.key c.text) ∧
        ms.map (fun m => (m.key, m.value)) = members := by
  induction calls generalizing members with
  | nil =>
    cases h
    exact ⟨[], rfl, rfl⟩
  | cons c calls ih =>
    rw [List.mapM_cons] at h
    simp only [Option.bind_eq_bind, Option.bind_eq_some_iff, Option.pure_def, Option.some.injEq] at h
    obtain ⟨m, hm, rest, hrest, rfl⟩ := h
    obtain ⟨v, hv, rfl⟩ := Option.map_eq_some_iff.mp hm
    obtain ⟨ms, hchars, hmembers⟩ := ih hrest
    refine ⟨⟨(jsonQuote c.key).toList, c.text.toList, c.key, v, quotes_jsonQuote c.key, c.yields hv⟩ ::
      ms, ?_, ?_⟩
    · rw [List.map_cons, List.map_cons, hchars]
      rfl
    · rw [List.map_cons, hmembers]

/-- A quoted string is one string literal and decodes to the string; an object reads as the
members of its calls, in their order. -/
theorem json_roundTrip :
    (∀ s : String, Json.Quotes (jsonQuote s).toList s ∧ Json.parse (jsonQuote s) = some (.str s)) ∧
      ∀ (calls : List FieldCall) (members : List (String × Json)),
        calls.mapM FieldCall.member = some members →
          Json.parse (builtText calls) = some (.obj members) := by
  constructor
  · intro s
    have hquotes := quotes_jsonQuote s
    exact ⟨hquotes, hquotes.reads.parse⟩
  · intro calls members h
    obtain ⟨ms, hchars, hmembers⟩ := exists_spelled h
    have hreads := Json.reads_object ms
    rw [hchars, hmembers, ← toList_built FieldCall.push_eq] at hreads
    exact hreads.parse

/-- A raw array with a space before and in it, behind a string with a quote and a line break. -/
theorem json_roundTrip_list :
    Json.parse (builtText [.str "name" "a\"\n", .raw "list" " [1, true]"]) =
      some (.obj [("name", .str "a\"\n"), ("list", .arr [.num 1 0, .bool true])]) := by
  have hchars : (" [1, true]" : String).toList =
      [' ', '[', '1', ',', ' ', 't', 'r', 'u', 'e', ']'] := by decide
  have hlist : Json.parse " [1, true]" = some (.arr [.num 1 0, .bool true]) := by
    unfold Json.parse
    rw [hchars]
    simp [Json.value, Json.elements, Json.skipSpace, Json.isSpace, Json.number, Json.sign,
      Json.fraction, Json.power, Json.literal, Json.withSign, Nat.ofDigitChars]
  apply json_roundTrip.2
  simp [FieldCall.member, FieldCall.value, FieldCall.key, hlist]

end CudaTrace.Decode
