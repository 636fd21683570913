import CudaTrace.Base.Json
import CudaTrace.Base.Quoting
import CudaTrace.Ptrace.Status

/-!
# Building JSON objects (decode/ioctl_json.rs)

`JsonObject` appends text; a decoder is the list of its `field_*` calls
(`Field`). Raw text only ever comes from other objects and from arrays, so it
travels with the tree that it reads as (`Fragment`), and an object that is
inserted into another one has no key twice (`Members`).
-/

namespace CudaTrace.Decode
open CudaTrace.Base
open CudaTrace.Ptrace (U32 U64 I32 I64)

abbrev U8 := BitVec 8
abbrev U16 := BitVec 16
abbrev I16 := BitVec 16

/-- `{:x}` after `0x`. -/
def hex {w : ℕ} (v : BitVec w) : String := "0x" ++ toHex v.toNat

/-- Hexadecimal, padded with zeros to `width` digits. -/
def hexPadChars (width n : ℕ) : List Char :=
  let digits := Nat.toDigits 16 n
  List.replicate (width - digits.length) '0' ++ digits

def hexPad (width n : ℕ) : String := String.ofList (hexPadChars width n)

theorem hexDigits_hexPadChars (width n : ℕ) : hexDigits 0 (hexPadChars width n) = some n := by
  have hzeros : ∀ k, hexDigits 0 (List.replicate k '0') = some 0 := by
    intro k
    induction k with
    | zero => rfl
    | succ k ih => exact ih
  rw [hexPadChars, hexDigits_append, hzeros, Option.bind_some, hexDigits_toDigits]

/-! ### `json_quote` -/

/-- `char::is_control`. -/
def isControl (c : Char) : Bool := c.toNat < 0x20 || (0x7f ≤ c.toNat && c.toNat ≤ 0x9f)

def escape (c : Char) : String :=
  if c = '"' then "\\\""
  else if c = '\\' then "\\\\"
  else if c = '\n' then "\\n"
  else if c = '\r' then "\\r"
  else if c = '\t' then "\\t"
  else if isControl c then "\\u" ++ hexPad 4 c.toNat
  else c.toString

def jsonQuote (value : String) : String :=
  value.toList.foldl (fun out c => out ++ escape c) "\"" ++ "\""

theorem toList_jsonQuote (s : String) :
    (jsonQuote s).toList = '"' :: (s.toList.flatMap (fun c => (escape c).toList) ++ ['"']) := by
  have hfold : ∀ (cs : List Char) (out : String),
      (cs.foldl (fun out c => out ++ escape c) out).toList =
        out.toList ++ cs.flatMap fun c => (escape c).toList := by
    intro cs
    induction cs with
    | nil => simp
    | cons c cs ih =>
      intro out
      simp [ih, String.toList_append]
  simp [jsonQuote, String.toList_append, hfold]

/-- The four digits of a control character read back as its code. -/
theorem hex4_hexPad (n : ℕ) (h : n < 0xa0) (rest : List Char) :
    Json.hex4 ((hexPad 4 n).toList ++ rest) = some (n, rest) := by
  have hall : ∀ k < 0xa0, Json.hex4 (hexPadChars 4 k) = some (k, []) := by decide +kernel
  have hn := Json.hex4_append rest (hall n h)
  simpa [hexPad] using hn

theorem stringChar_escape (c : Char) (rest : List Char) :
    Json.stringChar ((escape c).toList ++ rest) = some (c, rest) := by
  unfold escape
  split_ifs with hquote hslash hnewline hreturn htab hcontrol
  · subst hquote
    rfl
  · subst hslash
    rfl
  · subst hnewline
    rfl
  · subst hreturn
    rfl
  · subst htab
    rfl
  · have hsmall : c.toNat < 0xa0 := by
      simp only [isControl, Bool.or_eq_true, Bool.and_eq_true, decide_eq_true_eq] at hcontrol
      omega
    have hplain : c.toNat < 0xd800 ∨ 0xdfff < c.toNat := by omega
    simp [String.toList_append, Json.stringChar, Json.unicodeEscape, hex4_hexPad _ hsmall, hplain]
  · have hplain : ¬ c.toNat < 0x20 := by
      simp only [isControl, Bool.or_eq_true, Bool.and_eq_true, decide_eq_true_eq] at hcontrol
      omega
    simp [Json.stringChar, hslash, hplain]

theorem escape_head (c : Char) : ∃ d ds, (escape c).toList = d :: ds ∧ d ≠ '"' := by
  unfold escape
  split_ifs with hquote
  all_goals simp [String.toList_append, hquote]

theorem stringChars_escape (cs rest : List Char) (fuel : ℕ) (hfuel : cs.length < fuel) :
    Json.stringChars fuel (cs.flatMap (fun c => (escape c).toList) ++ '"' :: rest) =
      some (cs, rest) := by
  induction cs generalizing fuel with
  | nil =>
    obtain ⟨fuel, rfl⟩ : ∃ f, fuel = f + 1 := ⟨fuel - 1, by omega⟩
    simp [Json.stringChars]
  | cons c cs ih =>
    obtain ⟨fuel, rfl⟩ : ∃ f, fuel = f + 1 := ⟨fuel - 1, by omega⟩
    simp only [List.length_cons] at hfuel
    have htail := ih fuel (by omega)
    have hc := stringChar_escape c (cs.flatMap (fun c => (escape c).toList) ++ '"' :: rest)
    obtain ⟨d, ds, hhead, hne⟩ := escape_head c
    simp only [List.flatMap_cons, List.append_assoc] at hc ⊢
    rw [hhead, List.cons_append] at hc ⊢
    simp [Json.stringChars, hne, hc, htail]

theorem length_le_escaped (cs : List Char) :
    cs.length ≤ (cs.flatMap fun c => (escape c).toList).length := by
  induction cs with
  | nil => simp
  | cons c cs ih =>
    obtain ⟨d, ds, hhead, _⟩ := escape_head c
    simp only [List.flatMap_cons, List.length_append, List.length_cons, hhead]
    omega

theorem quotes_jsonQuote (s : String) : Json.Quotes (jsonQuote s).toList s := by
  refine ⟨s.toList.flatMap (fun c => (escape c).toList) ++ ['"'], toList_jsonQuote s, ?_⟩
  intro rest
  have hlen := length_le_escaped s.toList
  have hchars := stringChars_escape s.toList rest
    (s.toList.flatMap (fun c => (escape c).toList) ++ '"' :: rest).length (by
      simp only [List.length_append, List.length_cons]
      omega)
  simp only [List.append_assoc, List.singleton_append, Json.string, hchars, Option.map_some,
    String.ofList_toList]

/-! ### Texts without escapes -/

/-- Every character is written as it is. -/
def Plain (s : String) : Prop := ∀ c ∈ s.toList, escape c = c.toString

theorem jsonQuote_of_plain {s : String} (h : Plain s) : jsonQuote s = "\"" ++ s ++ "\"" := by
  have hflat : ∀ cs : List Char, (∀ c ∈ cs, escape c = c.toString) →
      (cs.flatMap fun c => (escape c).toList) = cs := by
    intro cs hcs
    induction cs with
    | nil => rfl
    | cons c cs ih =>
      rw [List.flatMap_cons, hcs c (by simp), ih fun d hd => hcs d (by simp [hd])]
      simp
  apply String.toList_inj.mp
  rw [toList_jsonQuote, hflat s.toList h]
  simp [String.toList_append]

theorem escape_digitChar : ∀ d < 16, escape d.digitChar = d.digitChar.toString := by decide

theorem plain_hexPad (width n : ℕ) : Plain (hexPad width n) := by
  intro c hc
  simp only [hexPad, hexPadChars, String.toList_ofList, List.mem_append, List.mem_replicate] at hc
  rcases hc with ⟨_, rfl⟩ | hc
  · decide
  · obtain ⟨d, hd, rfl⟩ := mem_toDigits (by omega) hc
    exact escape_digitChar d hd

theorem plain_append {s t : String} (hs : Plain s) (ht : Plain t) : Plain (s ++ t) := by
  intro c hc
  rw [String.toList_append, List.mem_append] at hc
  exact hc.elim (hs c) (ht c)

theorem plain_0x : Plain "0x" := by
  unfold Plain
  decide

theorem plain_hex {w : ℕ} (v : BitVec w) : Plain (hex v) := by
  apply plain_append plain_0x
  intro c hc
  simp only [toHex, String.toList_ofList] at hc
  obtain ⟨d, hd, rfl⟩ := mem_toDigits (by omega) hc
  exact escape_digitChar d hd

/-! ### Texts on one line -/

theorem digitChar_plain : ∀ d < 16, d.digitChar ≠ '\n' ∧ d.digitChar ≠ '"' ∧ d.digitChar ≠ '\\' := by
  decide

theorem tidy_toDigits {b : ℕ} (hb : 1 < b) (hb' : b ≤ 16) (n : ℕ) : Tidy (Nat.toDigits b n) := by
  refine .of_forall fun c hc => ?_
  obtain ⟨d, hd, rfl⟩ := mem_toDigits hb hc
  obtain ⟨hline, hquote, _⟩ := digitChar_plain d (by omega)
  exact ⟨hline, hquote⟩

theorem tidy_repr (n : ℕ) : Tidy n.repr.toList := by
  rw [Nat.toList_repr]
  exact tidy_toDigits (by decide) (by decide) n

theorem tidy_int (i : ℤ) : Tidy (toString i).toList := by
  cases i with
  | ofNat n => exact tidy_repr n
  | negSucc n =>
    show Tidy ("-" ++ n.succ.repr).toList
    rw [String.toList_append]
    exact .append (.of_forall (by decide)) (tidy_repr _)

theorem hexPadChars_plain (width n : ℕ) :
    ∀ x ∈ hexPadChars width n, x ≠ '\n' ∧ x ≠ '"' ∧ x ≠ '\\' := by
  intro x hx
  rcases List.mem_append.mp hx with hx | hx
  · rw [List.eq_of_mem_replicate hx]
    decide
  · obtain ⟨d, hd, rfl⟩ := mem_toDigits (by decide) hx
    exact digitChar_plain d hd

/-- A reader inside a quotation comes out of an escape inside it. -/
theorem inside_escape (c : Char) : '\n' ∉ (escape c).toList ∧
    (escape c).toList.foldl QuoteMode.next .inside = .inside := by
  unfold escape
  split_ifs with h1 h2 h3 h4 h5 h6
  · decide
  · decide
  · decide
  · decide
  · decide
  · have hdigits := fun x => hexPadChars_plain 4 c.toNat x
    have hinside : ∀ cs : List Char, (∀ x ∈ cs, x ≠ '\n' ∧ x ≠ '"' ∧ x ≠ '\\') →
        cs.foldl QuoteMode.next .inside = .inside := by
      intro cs hcs
      induction cs with
      | nil => rfl
      | cons x cs ih =>
        obtain ⟨_, hquote, hslash⟩ := hcs x List.mem_cons_self
        have hnext : QuoteMode.next .inside x = .inside := by
          simp [QuoteMode.next, hquote, hslash]
        rw [List.foldl_cons, hnext]
        exact ih fun y hy => hcs y (List.mem_cons_of_mem _ hy)
    have htext : ("\\u" ++ hexPad 4 c.toNat).toList = ['\\', 'u'] ++ hexPadChars 4 c.toNat := by
      simp [hexPad, String.toList_append]
    rw [htext]
    refine ⟨fun hmem => ?_, ?_⟩
    · rcases List.mem_append.mp hmem with hmem | hmem
      · exact absurd hmem (by decide)
      · exact (hdigits _ hmem).1 rfl
    · rw [List.foldl_append]
      exact hinside _ hdigits
  · have htext : c.toString.toList = [c] := by simp
    rw [htext]
    refine ⟨fun hmem => h3 (List.mem_singleton.mp hmem).symm, ?_⟩
    simp [QuoteMode.next, h1, h2]

theorem tidy_jsonQuote (s : String) : Tidy (jsonQuote s).toList := by
  rw [toList_jsonQuote, List.flatMap_def]
  refine .quoted fun t ht => ?_
  obtain ⟨c, _, rfl⟩ := List.mem_map.mp ht
  exact inside_escape c

/-! ### Objects -/

structure JsonObject where
  out : String
  first : Bool

namespace JsonObject

def new : JsonObject := ⟨"\x7b", true⟩

def pushFieldKey (o : JsonObject) (key : String) : JsonObject :=
  { out := (if o.first then o.out else o.out ++ ",") ++ jsonQuote key ++ ":", first := false }

/-- Append the text of a value. -/
def push (o : JsonObject) (text : String) : JsonObject := { o with out := o.out ++ text }

def fieldStr (o : JsonObject) (key value : String) : JsonObject :=
  (o.pushFieldKey key).push (jsonQuote value)

def fieldBool (o : JsonObject) (key : String) (value : Bool) : JsonObject :=
  (o.pushFieldKey key).push (if value then "true" else "false")

def fieldI64 (o : JsonObject) (key : String) (value : I64) : JsonObject :=
  (o.pushFieldKey key).push (toString value.toInt)

def fieldU64 (o : JsonObject) (key : String) (value : U64) : JsonObject :=
  (o.pushFieldKey key).push value.toNat.repr

def fieldRaw (o : JsonObject) (key rawJson : String) : JsonObject :=
  (o.pushFieldKey key).push rawJson

def finish (o : JsonObject) : String := o.out ++ "\x7d"

end JsonObject

/-- A text with the tree it reads as; no object in it has a key twice. -/
structure Fragment where
  text : String
  value : Json
  reads : Json.Reads text.toList value
  unique : value.UniqueKeys
  tidy : Tidy text.toList

/-- One call of a `field_*` method. -/
inductive Field where
  | str (key value : String)
  | bool (key : String) (value : Bool)
  | i64 (key : String) (value : I64)
  | u64 (key : String) (value : U64)
  | raw (key : String) (fragment : Fragment)

namespace Field

def push (o : JsonObject) : Field → JsonObject
  | str key value => o.fieldStr key value
  | bool key value => o.fieldBool key value
  | i64 key value => o.fieldI64 key value
  | u64 key value => o.fieldU64 key value
  | raw key fragment => o.fieldRaw key fragment.text

def key : Field → String
  | str key _ | bool key _ | i64 key _ | u64 key _ | raw key _ => key

/-- The value as it is written. -/
def text : Field → String
  | str _ value => jsonQuote value
  | bool _ value => if value then "true" else "false"
  | i64 _ value => toString value.toInt
  | u64 _ value => value.toNat.repr
  | raw _ fragment => fragment.text

def value : Field → Json
  | str _ value => .str value
  | bool _ value => .bool value
  | i64 _ value => .num value.toInt 0
  | u64 _ value => .num value.toNat 0
  | raw _ fragment => fragment.value

@[simp] theorem key_str {k v : String} : (str k v).key = k := rfl
@[simp] theorem key_bool {k : String} {v : Bool} : (bool k v).key = k := rfl
@[simp] theorem key_i64 {k : String} {v : I64} : (i64 k v).key = k := rfl
@[simp] theorem key_u64 {k : String} {v : U64} : (u64 k v).key = k := rfl
@[simp] theorem key_raw {k : String} {f : Fragment} : (raw k f).key = k := rfl

theorem push_eq (o : JsonObject) (f : Field) : f.push o = (o.pushFieldKey f.key).push f.text := by
  cases f <;> rfl

theorem reads (f : Field) : Json.Reads f.text.toList f.value := by
  cases f with
  | str key value => exact (quotes_jsonQuote value).reads
  | bool key value => exact Json.reads_bool value
  | i64 key value => exact Json.reads_int value.toInt
  | u64 key value => exact Json.reads_nat value.toNat
  | raw key fragment => exact fragment.reads

theorem unique (f : Field) : f.value.UniqueKeys := by
  cases f with
  | str key value => exact .str value
  | bool key value => exact .bool value
  | i64 key value => exact .num _ _
  | u64 key value => exact .num _ _
  | raw key fragment => exact fragment.unique

theorem tidy (f : Field) : Tidy f.text.toList := by
  cases f with
  | str key value => exact tidy_jsonQuote value
  | bool key value =>
    have htrue : Tidy "true".toList := .of_forall (by decide)
    have hfalse : Tidy "false".toList := .of_forall (by decide)
    cases value with
    | true => exact htrue
    | false => exact hfalse
  | i64 key value => exact tidy_int value.toInt
  | u64 key value => exact tidy_repr value.toNat
  | raw key fragment => exact fragment.tidy

def member (f : Field) : Json.MemberText where
  name := (jsonQuote f.key).toList
  text := f.text.toList
  key := f.key
  value := f.value
  quotes := quotes_jsonQuote f.key
  reads := f.reads

end Field

/-- The text of an object that was built by these calls. -/
def objectText (fs : List Field) : String := (fs.foldl Field.push JsonObject.new).finish

/-- The tree that `objectText` reads as. -/
def objectValue (fs : List Field) : Json := .obj (fs.map fun f => (f.key, f.value))

theorem intercalate_comma (x : List Char) (xs : List (List Char)) :
    [','].intercalate (x :: xs) = x ++ xs.flatMap fun y => ',' :: y := by
  induction xs generalizing x with
  | nil => simp
  | cons y ys ih => simp [List.intercalate_cons_cons, ih]

section Built

variable {α : Type} {push : JsonObject → α → JsonObject} {key text : α → String}

def memberChars (key text : String) : List Char := (jsonQuote key).toList ++ ':' :: text.toList

/-- After the first call, each call writes a comma first. -/
theorem toList_foldl_push (hpush : ∀ o a, push o a = (o.pushFieldKey (key a)).push (text a))
    (xs : List α) (o : JsonObject) (h : o.first = false) : (xs.foldl push o).out.toList =
      o.out.toList ++ xs.flatMap fun a => ',' :: memberChars (key a) (text a) := by
  induction xs generalizing o with
  | nil => simp
  | cons a xs ih =>
    rw [List.foldl_cons, ih _ (by rw [hpush]; rfl), hpush]
    simp [JsonObject.pushFieldKey, JsonObject.push, h, String.toList_append, memberChars]

/-- Commas stand between the members and nowhere else. -/
theorem toList_built (hpush : ∀ o a, push o a = (o.pushFieldKey (key a)).push (text a))
    (xs : List α) : (xs.foldl push JsonObject.new).finish.toList =
      '{' :: [','].intercalate (xs.map fun a => memberChars (key a) (text a)) ++ ['}'] := by
  cases xs with
  | nil => simp [JsonObject.new, JsonObject.finish, String.toList_append]
  | cons a xs =>
    rw [List.map_cons, intercalate_comma]
    simp only [List.foldl_cons, JsonObject.finish, String.toList_append]
    rw [toList_foldl_push hpush _ _ (by rw [hpush]; rfl), hpush]
    simp [JsonObject.pushFieldKey, JsonObject.push, JsonObject.new, String.toList_append,
      memberChars, List.flatMap_map]

end Built

theorem toList_objectText (fs : List Field) : (objectText fs).toList =
    '{' :: [','].intercalate ((fs.map Field.member).map Json.MemberText.chars) ++ ['}'] := by
  rw [objectText, toList_built Field.push_eq, List.map_map]
  rfl

theorem reads_objectText (fs : List Field) :
    Json.Reads (objectText fs).toList (objectValue fs) := by
  have h := Json.reads_obj (fs.map Field.member)
  rw [toList_objectText]
  simpa [objectValue, Field.member, Function.comp_def] using h

theorem uniqueKeys_objectValue (fs : List Field) :
    (objectValue fs).UniqueKeys ↔ (fs.map Field.key).Nodup := by
  have hvalues : ∀ m ∈ fs.map (fun f => (f.key, f.value)), m.2.UniqueKeys := by
    intro m hm
    obtain ⟨f, _, rfl⟩ := List.mem_map.mp hm
    exact f.unique
  rw [objectValue, Json.uniqueKeys_obj_iff hvalues]
  simp [Function.comp_def]

theorem tidy_intercalate (ts : List (List Char)) (h : ∀ t ∈ ts, Tidy t) :
    Tidy ([','].intercalate ts) := by
  have hcomma : Tidy [','] := .of_forall (by decide)
  have hrest : ∀ us : List (List Char), (∀ t ∈ us, Tidy t) → Tidy (us.flatMap fun t => ',' :: t) := by
    intro us hus
    induction us with
    | nil => exact .nil
    | cons t us ih =>
      exact (hcomma.append (hus t List.mem_cons_self)).append
        (ih fun x hx => hus x (List.mem_cons_of_mem _ hx))
  cases ts with
  | nil => exact .nil
  | cons t ts =>
    rw [intercalate_comma]
    exact (h t List.mem_cons_self).append (hrest ts fun x hx => h x (List.mem_cons_of_mem _ hx))

theorem tidy_objectText (fs : List Field) : Tidy (objectText fs).toList := by
  have hmembers : ∀ t ∈ (fs.map Field.member).map Json.MemberText.chars, Tidy t := by
    intro t ht
    obtain ⟨m, hm, rfl⟩ := List.mem_map.mp ht
    obtain ⟨f, _, rfl⟩ := List.mem_map.mp hm
    have hcolon : Tidy [':'] := .of_forall (by decide)
    exact (tidy_jsonQuote f.key).append (hcolon.append f.tidy)
  have hopen : Tidy ['{'] := .of_forall (by decide)
  have hclose : Tidy ['}'] := .of_forall (by decide)
  rw [toList_objectText]
  exact (hopen.append (tidy_intercalate _ hmembers)).append hclose

/-- The calls that build an object in which no key occurs twice. -/
structure Members where
  fields : List Field
  nodup : (fields.map Field.key).Nodup := by simp

def Members.finish (m : Members) : Fragment where
  text := objectText m.fields
  value := objectValue m.fields
  reads := reads_objectText m.fields
  unique := (uniqueKeys_objectValue m.fields).mpr m.nodup
  tidy := tidy_objectText m.fields

/-- What a decoder reports: its members, then its status. -/
structure Report where
  members : List Field
  status : String
  nodup : (members.map Field.key ++ ["status"]).Nodup := by simp

namespace Report

def fields (r : Report) : List Field := r.members ++ [.str "status" r.status]

theorem nodup_fields (r : Report) : (r.fields.map Field.key).Nodup := by
  have h := r.nodup
  simpa [fields] using h

def finish (r : Report) : Fragment := Members.finish ⟨r.fields, r.nodup_fields⟩

/-- A decoder that ran to its end. -/
def ok (members : List Field) (nodup : (members.map Field.key ++ ["status"]).Nodup := by simp) :
    Report := ⟨members, "ok", nodup⟩

/-- Nothing but a status. -/
def failed (status : String) : Report := Report.mk [] status

end Report

/-! ### Arrays -/

namespace Fragment

/-- The loop of the `json_*_array` functions: a comma before every item but the first. -/
def array (items : List Fragment) : Fragment where
  text := "[" ++ ",".intercalate (items.map Fragment.text) ++ "]"
  value := .arr (items.map Fragment.value)
  reads := by
    have h := Json.reads_arr (items.map fun f => (f.text.toList, f.value)) (by
      intro t ht
      obtain ⟨f, _, rfl⟩ := List.mem_map.mp ht
      exact f.reads)
    simpa [String.toList_append, String.toList_intercalate, Function.comp_def] using h
  unique := by
    refine .arr fun x hx => ?_
    obtain ⟨f, _, rfl⟩ := List.mem_map.mp hx
    exact f.unique
  tidy := by
    have hitems := tidy_intercalate (items.map fun f => f.text.toList) fun t ht => by
      obtain ⟨f, _, rfl⟩ := List.mem_map.mp ht
      exact f.tidy
    have hopen : Tidy ['['] := .of_forall (by decide)
    have hclose : Tidy [']'] := .of_forall (by decide)
    simpa [String.toList_append, String.toList_intercalate, Function.comp_def] using
      (hopen.append hitems).append hclose

def string (s : String) : Fragment where
  text := jsonQuote s
  value := .str s
  reads := (quotes_jsonQuote s).reads
  unique := .str s
  tidy := tidy_jsonQuote s

/-- A text between plain quotes. -/
def quoted (s : String) (h : Plain s) : Fragment where
  text := "\"" ++ s ++ "\""
  value := .str s
  reads := by
    rw [← jsonQuote_of_plain h]
    exact (quotes_jsonQuote s).reads
  unique := .str s
  tidy := by
    rw [← jsonQuote_of_plain h]
    exact tidy_jsonQuote s

def nat (n : ℕ) : Fragment where
  text := n.repr
  value := .num n 0
  reads := Json.reads_nat n
  unique := .num _ _
  tidy := tidy_repr n

end Fragment

end CudaTrace.Decode
