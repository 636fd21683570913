import CudaTrace.Decode.Remote

/-!
# Where the numbers of a report stand

A form says of a JSON value which numbers of the memory it shows: each with its address,
its width and its sign. It does not say how the value was made.
-/

namespace CudaTrace.Decode
open CudaTrace.Base
open CudaTrace.Ptrace (U32 U64 I32 I64)

/-! ### Parts of a block of memory -/

/-- The bytes of the list stand at the address, as far as `size` goes. -/
def Holds (t : Target) (addr size : ℕ) (bs : List UInt8) : Prop :=
  ∀ off width, off + width ≤ size → t.bytes (addr + off) width = some ((bs.drop off).take width)

theorem Target.bytes_drop {t : Target} {addr n : ℕ} {bs : List UInt8} (h : t.bytes addr n = some bs)
    {off width : ℕ} (hle : off + width ≤ n) :
    t.bytes (addr + off) width = some ((bs.drop off).take width) := by
  induction n generalizing addr bs off width with
  | zero =>
    obtain ⟨rfl, rfl⟩ : off = 0 ∧ width = 0 := by omega
    simp [Target.bytes]
  | succ n ih =>
    simp only [Target.bytes, Option.ite_none_right_eq_some, Option.bind_eq_some_iff,
      Option.map_eq_some_iff] at h
    obtain ⟨hrange, b, hb, rest, hrest, rfl⟩ := h
    cases off with
    | zero =>
      cases width with
      | zero => simp [Target.bytes]
      | succ width =>
        have hle : 0 + width ≤ n := by omega
        have htail := ih hrest hle
        simp only [Nat.add_zero, List.drop_zero] at htail
        simp [Target.bytes, hrange, hb, htail]
    | succ off =>
      have hle : off + width ≤ n := by omega
      have htail := ih hrest hle
      rw [Nat.add_right_comm, Nat.add_assoc] at htail
      exact htail

theorem Target.holds {t : Target} {addr n : ℕ} {bs : List UInt8} (h : t.bytes addr n = some bs) :
    Holds t addr n bs := fun _ _ hle => t.bytes_drop h hle

theorem ok_readPod {T : Type} [Pod T] {via : Via} {addr : ℕ} {p : T} {w : World Target}
    (h : (readPod T via addr w).outcome = .ok (some p)) :
    ∃ bs, Holds w.state addr (Pod.size T) bs ∧ p = Pod.ofBytes bs := by
  have hread : w.state.pod T addr = some p := Checked.ok_ask.mp h
  obtain ⟨bs, hbs, rfl⟩ := Option.map_eq_some_iff.mp hread
  exact ⟨bs, Target.holds hbs, rfl⟩

theorem Holds.mono {t : Target} {addr size part : ℕ} {bs : List UInt8} (h : Holds t addr size bs)
    (hle : part ≤ size) : Holds t addr part bs := fun off width ho => h off width (by omega)

/-- A part of the block is a block. -/
theorem Holds.drop {t : Target} {addr size : ℕ} {bs : List UInt8} (h : Holds t addr size bs)
    {off part : ℕ} (hle : off + part ≤ size) : Holds t (addr + off) part (bs.drop off) := by
  intro o width ho
  rw [Nat.add_assoc, List.drop_drop]
  exact h (off + o) width (by omega)

/-! ### Hexadecimal texts -/

/-- The number that a text stands for. -/
def readHex (s : String) : Option ℕ :=
  match s.toList with
  | '0' :: 'x' :: digits => if digits.isEmpty then none else hexDigits 0 digits
  | _ => none

theorem readHex_append {s : String} (hs : s.toList ≠ []) :
    readHex ("0x" ++ s) = hexDigits 0 s.toList := by
  have htext : ("0x" ++ s).toList = '0' :: 'x' :: s.toList := by
    rw [String.toList_append]
    rfl
  have hnil : s.toList.isEmpty = false := by simpa using hs
  unfold readHex
  rw [htext]
  simp [hnil]

theorem readHex_hex {w : ℕ} (v : BitVec w) : readHex (hex v) = some v.toNat := by
  rw [hex, toHex, readHex_append (by rw [String.toList_ofList]; exact Nat.toDigits_ne_nil),
    String.toList_ofList, hexDigits_toDigits]

theorem readHex_hexU8 (n : ℕ) : readHex ("0x" ++ hexPad 2 n) = some n := by
  have hne : hexPadChars 2 n ≠ [] := List.append_ne_nil_of_right_ne_nil _ Nat.toDigits_ne_nil
  rw [hexPad, readHex_append (by rwa [String.toList_ofList]), String.toList_ofList,
    hexDigits_hexPadChars]

/-! ### Numbers in memory -/

/-- A number in memory, least byte first, in two's complement when it is signed. -/
structure Cell where
  addr : ℕ
  width : ℕ
  signed : Bool

/-- The number that the bytes stand for. -/
def numberOf (signed : Bool) (bs : List UInt8) : ℤ :=
  if signed ∧ 2 ^ (8 * bs.length) ≤ 2 * leNat bs then (leNat bs : ℤ) - 2 ^ (8 * bs.length)
  else leNat bs

def Cell.value (c : Cell) (t : Target) : Option ℤ := (t.bytes c.addr c.width).map (numberOf c.signed)

/-- What a JSON value is to show. -/
inductive Form where
  | number (c : Cell)      -- in decimal, or its bits in hexadecimal
  | uuid (addr : ℕ)
  | note                   -- a flag or a text that is not a number of the memory
  | derived                -- what the decoder counts itself
  | exactly (n : ℕ)        -- a number that is known without the memory
  | object (members : List (String × Form))
  | list (item : ℕ → Form)
  | chosen (item : ℕ → Form)               -- some entries of a list
  | behind (c : Cell) (form : ℕ → Form)    -- what the number there leads to

mutual

inductive Shows (t : Target) : Form → Json → Prop
  | decimal {c : Cell} {n : ℤ} (h : c.value t = some n) : Shows t (.number c) (.num n 0)
  | bits {c : Cell} {n : ℕ} {s : String} (hs : readHex s = some n)
      (h : { c with signed := false }.value t = some (n : ℤ)) : Shows t (.number c) (.str s)
  | uuid {addr : ℕ} {bs : List UInt8} (h : t.bytes addr 16 = some bs) :
      Shows t (.uuid addr) (.str (formatUuid (Pod.ofBytes bs)))
  | flag (b : Bool) : Shows t .note (.bool b)
  | text (s : String) : Shows t .note (.str s)
  | derived (j : Json) : Shows t .derived j
  | object {fs : List (String × Form)} {ms : List (String × Json)} (h : ShowsMembers t fs ms) :
      Shows t (.object fs) (.obj ms)
  | exactly (n : ℕ) : Shows t (.exactly n) (.num n 0)
  | list {item : ℕ → Form} {js : List Json} (h : ∀ i j, js[i]? = some j → Shows t (item i) j) :
      Shows t (.list item) (.arr js)
  | chosen {item : ℕ → Form} {js : List Json} (place : ℕ → ℕ)
      (h : ∀ i j, js[i]? = some j → Shows t (item (place i)) j) : Shows t (.chosen item) (.arr js)
  | behind {c : Cell} {form : ℕ → Form} {n : ℕ} {j : Json} (hn : c.value t = some (n : ℤ))
      (h : Shows t (form n) j) : Shows t (.behind c form) j

/-- Every member that is reported is one of the form. -/
inductive ShowsMembers (t : Target) : List (String × Form) → List (String × Json) → Prop
  | nil {fs : List (String × Form)} : ShowsMembers t fs []
  | cons {fs : List (String × Form)} {key : String} {f : Form} {j : Json}
      {ms : List (String × Json)} (hmem : (key, f) ∈ fs) (h : Shows t f j)
      (rest : ShowsMembers t fs ms) : ShowsMembers t fs ((key, j) :: ms)

end

theorem ShowsMembers.mono {t : Target} {fs fs' : List (String × Form)} {ms : List (String × Json)}
    (h : ShowsMembers t fs ms) (hsub : ∀ m ∈ fs, m ∈ fs') : ShowsMembers t fs' ms := by
  induction ms with
  | nil => exact .nil
  | cons m ms ih =>
    cases h with
    | cons hmem hshow rest => exact .cons (hsub _ hmem) hshow (ih rest)

theorem ShowsMembers.append {t : Target} {fs : List (String × Form)} {ms ms' : List (String × Json)}
    (h : ShowsMembers t fs ms) (h' : ShowsMembers t fs ms') : ShowsMembers t fs (ms ++ ms') := by
  induction ms with
  | nil => exact h'
  | cons m ms ih =>
    cases h with
    | cons hmem hshow rest => exact .cons hmem hshow (ih rest)

theorem ShowsMembers.of_mem {t : Target} {fs : List (String × Form)} {ms : List (String × Json)}
    (h : ShowsMembers t fs ms) {key : String} {j : Json} (hj : (key, j) ∈ ms) :
    ∃ f, (key, f) ∈ fs ∧ Shows t f j := by
  induction ms with
  | nil => cases hj
  | cons m ms ih =>
    cases h with
    | cons hmem hshow rest =>
      rcases List.mem_cons.mp hj with he | hj
      · cases he
        exact ⟨_, hmem, hshow⟩
      · exact ih rest hj

/-! ### Fields of a structure -/

theorem leNat_lt (bs : List UInt8) : leNat bs < 2 ^ (8 * bs.length) := by
  induction bs with
  | nil => simp [leNat]
  | cons b bs ih =>
    have hb : b.toNat < 256 := b.toNat_lt
    have hpow : 2 ^ (8 * (bs.length + 1)) = 256 * 2 ^ (8 * bs.length) := by
      rw [Nat.mul_add, pow_add]
      omega
    rw [leNat, List.length_cons, hpow]
    omega

section Fields
variable {t : Target} {addr w : ℕ} {bs : List UInt8}

/-- The field of a structure is the number that stands there. -/
theorem Holds.toNat (h : Holds t addr (w / 8) bs) (hw : 8 * (w / 8) = w) :
    t.bytes addr (w / 8) = some (bs.take (w / 8)) ∧ (bs.take (w / 8)).length = w / 8 ∧
      (Pod.ofBytes bs : BitVec w).toNat = leNat (bs.take (w / 8)) := by
  have hread : t.bytes addr (w / 8) = some (bs.take (w / 8)) := h 0 (w / 8) (by omega)
  have hlen := Target.length_bytes hread
  have hlt := leNat_lt (bs.take (w / 8))
  rw [hlen, hw] at hlt
  refine ⟨hread, hlen, ?_⟩
  show (BitVec.ofNat w (leNat (bs.take (w / 8)))).toNat = _
  rw [BitVec.toNat_ofNat, Nat.mod_eq_of_lt hlt]

theorem Holds.unsigned (h : Holds t addr (w / 8) bs) (hw : 8 * (w / 8) = w) :
    (Cell.mk addr (w / 8) false).value t = some ((Pod.ofBytes bs : BitVec w).toNat : ℤ) := by
  obtain ⟨hread, -, hval⟩ := h.toNat hw
  rw [Cell.value, hread, hval]
  rfl

theorem Holds.signed (h : Holds t addr (w / 8) bs) (hw : 8 * (w / 8) = w) :
    (Cell.mk addr (w / 8) true).value t = some (Pod.ofBytes bs : BitVec w).toInt := by
  obtain ⟨hread, hlen, hval⟩ := h.toNat hw
  rw [Cell.value, hread, BitVec.toInt_eq_toNat_cond, hval]
  simp only [Option.map_some, numberOf, hlen, hw, true_and, Option.some.injEq]
  split_ifs
  · omega
  · simp
  · simp
  · omega

theorem shows_toNat (h : Holds t addr (w / 8) bs) (hw : 8 * (w / 8) = w) :
    Shows t (.number ⟨addr, w / 8, false⟩) (.num (Pod.ofBytes bs : BitVec w).toNat 0) :=
  .decimal (h.unsigned hw)

theorem shows_hex (h : Holds t addr (w / 8) bs) (hw : 8 * (w / 8) = w) {signed : Bool} :
    Shows t (.number ⟨addr, w / 8, signed⟩) (.str (hex (Pod.ofBytes bs : BitVec w))) :=
  .bits (readHex_hex _) (c := ⟨addr, w / 8, signed⟩) (h.unsigned hw)

theorem shows_zext (h : Holds t addr (w / 8) bs) (hw : 8 * (w / 8) = w) (hle : w ≤ 64) :
    Shows t (.number ⟨addr, w / 8, false⟩) (.num (zext (Pod.ofBytes bs : BitVec w)).toNat 0) := by
  have hval : (zext (Pod.ofBytes bs : BitVec w)).toNat = (Pod.ofBytes bs : BitVec w).toNat :=
    BitVec.toNat_setWidth_of_le hle
  rw [hval]
  exact shows_toNat h hw

theorem shows_sext (h : Holds t addr (w / 8) bs) (hw : 8 * (w / 8) = w) (hle : w ≤ 64) :
    Shows t (.number ⟨addr, w / 8, true⟩) (.num (sext (Pod.ofBytes bs : BitVec w)).toInt 0) := by
  have hval : (sext (Pod.ofBytes bs : BitVec w)).toInt = (Pod.ofBytes bs : BitVec w).toInt :=
    BitVec.toInt_signExtend_of_le hle
  rw [hval]
  exact .decimal (h.signed hw)

/-- An unsigned field that is narrow enough goes through a signed number unchanged. -/
theorem shows_code (h : Holds t addr (w / 8) bs) (hw : 8 * (w / 8) = w) (hlt : w < 64) :
    Shows t (.number ⟨addr, w / 8, false⟩) (.num (zext (Pod.ofBytes bs : BitVec w)).toInt 0) := by
  have hval : (zext (Pod.ofBytes bs : BitVec w)).toNat = (Pod.ofBytes bs : BitVec w).toNat :=
    BitVec.toNat_setWidth_of_le hlt.le
  have hsmall : (Pod.ofBytes bs : BitVec w).toNat < 2 ^ 63 :=
    lt_of_lt_of_le (Pod.ofBytes bs : BitVec w).isLt (Nat.pow_le_pow_right (by decide) (by omega))
  have hint : (zext (Pod.ofBytes bs : BitVec w)).toInt = ((Pod.ofBytes bs : BitVec w).toNat : ℤ) := by
    rw [BitVec.toInt_eq_toNat_of_lt (by omega), hval]
  rw [hint]
  exact shows_toNat h hw

theorem Holds.byte (h : Holds t addr 1 bs) :
    (Cell.mk addr 1 false).value t = some ((Pod.ofBytes bs : UInt8).toNat : ℤ) := by
  have hread : t.bytes addr 1 = some (bs.take 1) := h 0 1 (by omega)
  have hlen := Target.length_bytes hread
  cases bs with
  | nil => simp at hlen
  | cons b bs =>
    have hvalue : leNat [b] = b.toNat := by simp [leNat]
    rw [Cell.value, hread]
    simp only [List.take_succ_cons, List.take_zero, Option.map_some, numberOf, hvalue]
    rfl

theorem shows_uuid (h : Holds t addr 16 bs) :
    Shows t (.uuid addr) (.str (formatUuid (Pod.ofBytes bs))) := by
  have htake : (Pod.ofBytes (bs.take 16) : Vector UInt8 16) = Pod.ofBytes bs := by
    refine Vector.ext fun i hi => ?_
    show (Vector.ofFn _)[i] = (Vector.ofFn _)[i]
    rw [Vector.getElem_ofFn, Vector.getElem_ofFn]
    show (((bs.take 16).drop (i * 1)).headD 0 : UInt8) = (bs.drop (i * 1)).headD 0
    rw [List.drop_take, List.headD_eq_head?_getD, List.headD_eq_head?_getD, List.head?_take,
      if_neg (by omega)]
  rw [← htake]
  exact .uuid (h 0 16 (by omega))

end Fields

/-! ### Rows of a structure -/

/-- How a number is written: by `field_u64`, by `field_i64`, or in hexadecimal. -/
inductive Style where
  | u64
  | i64
  | hex

/-- A number at its offset in a structure, which may stand within another one. -/
structure Slot where
  within : ℕ
  offset : ℕ
  width : ℕ
  signed : Bool
  style : Style

namespace Slot

/-- The field, as it is read from the bytes of its structure. -/
def field (s : Slot) (bs : List UInt8) : BitVec (8 * s.width) :=
  Pod.ofBytes ((bs.drop s.within).drop s.offset)

def extended (s : Slot) (bs : List UInt8) : U64 :=
  if s.signed then sext (s.field bs) else zext (s.field bs)

def json (s : Slot) (bs : List UInt8) : Json :=
  match s.style with
  | .u64 => .num (s.extended bs).toNat 0
  | .i64 => .num (s.extended bs).toInt 0
  | .hex => .str (CudaTrace.Decode.hex (s.field bs))

/-- The way of writing keeps the number. -/
def sound (s : Slot) : Bool :=
  match s.style with
  | .u64 => !s.signed && s.width ≤ 8
  | .i64 => if s.signed then s.width ≤ 8 else s.width < 8
  | .hex => true

theorem shows {t : Target} {addr size : ℕ} {bs : List UInt8} (s : Slot) (hbs : Holds t addr size bs)
    (hle : s.within + (s.offset + s.width) ≤ size) (hsound : s.sound = true) :
    Shows t (.number ⟨addr + s.within + s.offset, s.width, s.signed⟩) (s.json bs) := by
  obtain ⟨within, offset, width, signed, style⟩ := s
  have hdiv : 8 * width / 8 = width := Nat.mul_div_cancel_left _ (by decide)
  have hpart : Holds t (addr + within + offset) (8 * width / 8) ((bs.drop within).drop offset) := by
    rw [hdiv]
    exact (hbs.drop hle).drop le_rfl
  have hw : 8 * (8 * width / 8) = 8 * width := by rw [hdiv]
  cases style with
  | u64 =>
    simp only [sound, Bool.and_eq_true, Bool.not_eq_true', decide_eq_true_eq] at hsound
    obtain ⟨rfl, hwidth⟩ := hsound
    have hshow := shows_zext hpart hw (by omega)
    rwa [hdiv] at hshow
  | i64 =>
    cases signed with
    | true =>
      have hwidth : width ≤ 8 := by simpa [sound] using hsound
      have hshow := shows_sext hpart hw (by omega)
      rwa [hdiv] at hshow
    | false =>
      have hwidth : width < 8 := by simpa [sound] using hsound
      have hshow := shows_code hpart hw (by omega)
      rwa [hdiv] at hshow
  | hex =>
    have hshow : Shows t (.number ⟨addr + within + offset, 8 * width / 8, signed⟩) _ :=
      shows_hex hpart hw
    rwa [hdiv] at hshow

end Slot

/-- A member of a report: a number of the structure, a flag or text, a number that the
decoder counts, or something that has a form of its own in a structure at the address. -/
inductive Row where
  | slot (key : String) (s : Slot)
  | uuid (key : String) (offset : ℕ)
  | note (key : String)
  | counted (key : String)
  | given (key : String) (f : ℕ → Form)

namespace Row

def unsigned (width : ℕ) (key : String) (offset : ℕ) : Row :=
  .slot key ⟨0, offset, width, false, .u64⟩

def signed (width : ℕ) (key : String) (offset : ℕ) : Row :=
  .slot key ⟨0, offset, width, true, .i64⟩

def code (key : String) (offset : ℕ) : Row := .slot key ⟨0, offset, 4, false, .i64⟩

def hex (width : ℕ) (key : String) (offset : ℕ) : Row :=
  .slot key ⟨0, offset, width, false, .hex⟩

/-- A number of a structure that stands within this one. -/
def inside (within : ℕ) : Row → Row
  | slot key s => slot key { s with within }
  | row => row

/-- The member that the row stands for, in a structure at `addr`. -/
def form (addr : ℕ) : Row → String × Form
  | slot key s => (key, .number ⟨addr + s.within + s.offset, s.width, s.signed⟩)
  | uuid key offset => (key, .uuid (addr + offset))
  | note key => (key, .note)
  | counted key => (key, .derived)
  | given key f => (key, f addr)

/-- The member with the number that the row stands for. -/
def fill (bs : List UInt8) (r : Row) (f : Field) : String × Json :=
  match r with
  | slot key s => (key, s.json bs)
  | uuid key offset => (key, .str (formatUuid (Pod.ofBytes (bs.drop offset))))
  | note key => (key, match f with | .bool _ b => .bool b | .str _ v => .str v | _ => .str "")
  | counted key | given key _ => (key, f.value)

/-- The number lies in a structure of the size, and is written as it is. -/
def fits (size : ℕ) : Row → Bool
  | slot _ s => s.sound && s.within + (s.offset + s.width) ≤ size
  | uuid _ offset => offset + 16 ≤ size
  | note _ | counted _ | given _ _ => true

end Row

/-- The fields are those of the rows, one for one. -/
def Fits (bs : List UInt8) (rows : List Row) (fields : List Field) : Prop :=
  fields.map (fun f => (f.key, f.value)) = List.zipWith (Row.fill bs) rows fields

/-- What has a form of its own shows it. -/
def Given (t : Target) (addr : ℕ) : List Row → List Field → Prop
  | .given _ form :: rows, f :: fields => Shows t (form addr) f.value ∧ Given t addr rows fields
  | _ :: rows, _ :: fields => Given t addr rows fields
  | _, _ => True

/-- The members of a structure show what its rows say. -/
theorem shows_rows {t : Target} {addr size : ℕ} {bs : List UInt8} {rows : List Row}
    {fields : List Field} (hbs : Holds t addr size bs) (hrows : rows.all (Row.fits size) = true)
    (hfits : Fits bs rows fields) (hgiven : Given t addr rows fields) :
    ShowsMembers t (rows.map (Row.form addr)) (fields.map fun f => (f.key, f.value)) := by
  induction rows generalizing fields with
  | nil =>
    rw [hfits]
    exact .nil
  | cons row rows ih =>
    cases fields with
    | nil => exact .nil
    | cons f fields =>
      rw [List.all_cons, Bool.and_eq_true] at hrows
      simp only [Fits, List.map_cons, List.zipWith_cons_cons, List.cons.injEq] at hfits
      obtain ⟨hrow, hrest⟩ := hfits
      have htail : Given t addr rows fields := by
        cases row with
        | slot key s => exact hgiven
        | uuid key offset => exact hgiven
        | note key => exact hgiven
        | counted key => exact hgiven
        | given key form => exact hgiven.2
      have hmembers : ShowsMembers t ((row :: rows).map (Row.form addr))
          (fields.map fun f => (f.key, f.value)) :=
        (ih hrows.2 hrest htail).mono fun m hm => List.mem_cons_of_mem _ hm
      rw [List.map_cons, List.map_cons, hrow]
      cases row with
      | slot key s =>
        have hslot := Bool.and_eq_true_iff.mp hrows.1
        exact .cons List.mem_cons_self (s.shows hbs (of_decide_eq_true hslot.2) hslot.1) hmembers
      | uuid key offset =>
        have hpart := hbs.drop (of_decide_eq_true hrows.1)
        exact .cons List.mem_cons_self (shows_uuid hpart) hmembers
      | note key =>
        refine .cons List.mem_cons_self ?_ hmembers
        cases f with
        | bool k b => exact .flag b
        | str k v => exact .text v
        | i64 k v => exact .text ""
        | u64 k v => exact .text ""
        | raw k v => exact .text ""
      | counted key => exact .cons List.mem_cons_self (.derived _) hmembers
      | given key form => exact .cons List.mem_cons_self hgiven.1 hmembers

/-! ### Lists -/

def numberList (base width : ℕ) : Form := .list fun i => .number ⟨base + i * width, width, false⟩

def uuidList (base : ℕ) : Form := .list fun i => .uuid (base + i * 16)

def recordForm (addr : ℕ) (rows : List Row) : Form := .object (rows.map (Row.form addr))

/-- Structures of one size, one behind the other. -/
def recordList (base size : ℕ) (rows : List Row) : Form :=
  .list fun i => recordForm (base + i * size) rows

/-- The list holds what stands at an address, entry for entry. -/
def Entries {α : Type} [Pod α] (t : Target) (base : ℕ) (xs : List α) : Prop :=
  ∀ i v, xs[i]? = some v →
    ∃ bs, Holds t (base + i * Pod.size α) (Pod.size α) bs ∧ v = Pod.ofBytes bs

section Lists
variable {t : Target} {base : ℕ} {α : Type}

theorem Entries.start [Pod α] {xs ys : List α} (h : Entries t base xs) (hpre : ys <+: xs) :
    Entries t base ys := by
  intro i v hv
  obtain ⟨rest, rfl⟩ := hpre
  have hi := (List.getElem?_eq_some_iff.mp hv).1
  exact h i v (by rw [List.getElem?_append_left hi, hv])

theorem entries_vector [Pod α] {n : ℕ} {bs : List UInt8} (h : Holds t base (n * Pod.size α) bs) :
    Entries t base (Pod.ofBytes bs : Vector α n).toList := by
  intro i v hv
  rw [Vector.getElem?_toList] at hv
  obtain ⟨hi, rfl⟩ := Vector.getElem?_eq_some_iff.mp hv
  refine ⟨bs.drop (i * Pod.size α), h.drop ?_, Vector.getElem_ofFn hi⟩
  calc i * Pod.size α + Pod.size α = (i + 1) * Pod.size α := by rw [Nat.add_mul, Nat.one_mul]
    _ ≤ n * Pod.size α := Nat.mul_le_mul_right _ hi

theorem entries_array [Pod α] (off : ℕ) {n size : ℕ} {bs : List UInt8} (hbs : Holds t base size bs)
    (hoff : off + n * Pod.size α ≤ size) :
    Entries t (base + off) (Pod.ofBytes (bs.drop off) : Vector α n).toList :=
  entries_vector (hbs.drop hoff)

/-- The start of an array of the structure. -/
theorem entries_prefixOf [Pod α] (off : ℕ) {n count size : ℕ} {bs : List UInt8} {w : World Target}
    {shown : List α} (hbs : Holds w.state base size bs) (hoff : off + n * Pod.size α ≤ size)
    (h : ((Checked.prefixOf (Pod.ofBytes (bs.drop off) : Vector α n).toList count :
      Decoding (List α)) w).outcome = .ok shown) : Entries w.state (base + off) shown := by
  obtain ⟨-, rfl⟩ := Checked.ok_prefixOf h
  exact (entries_array off hbs hoff).start (List.take_prefix count _)

theorem getElem?_words {bs : List UInt8} {i : ℕ} {v : U32} (h : (words bs)[i]? = some v) :
    4 * i + 4 ≤ bs.length ∧ v = Pod.ofBytes (bs.drop (4 * i)) := by
  induction bs using words.induct generalizing i with
  | case1 a b c d rest ih =>
    rw [words] at h
    cases i with
    | zero =>
      rw [List.getElem?_cons_zero, Option.some.injEq] at h
      refine ⟨by simp, ?_⟩
      rw [← h]
      rfl
    | succ i =>
      rw [List.getElem?_cons_succ] at h
      obtain ⟨hle, hv⟩ := ih h
      refine ⟨by simp only [List.length_cons]; omega, ?_⟩
      rw [hv]
      rfl
  | case2 bs hshort =>
    rw [words] at h
    · cases h
    · exact hshort

theorem entries_words {len : ℕ} {bs : List UInt8} (h : t.bytes base len = some bs) :
    Entries t base (words bs) := by
  intro i v hv
  obtain ⟨hle, rfl⟩ := getElem?_words hv
  have hlen := Target.length_bytes h
  refine ⟨bs.drop (4 * i), ?_, rfl⟩
  show Holds t (base + i * 4) 4 _
  rw [Nat.mul_comm i 4]
  exact (Target.holds h).drop (by omega)

theorem shows_array {xs : List α} {item : α → Fragment} {f : ℕ → Form}
    (h : ∀ i v, xs[i]? = some v → Shows t (f i) (item v).value) :
    Shows t (.list f) (Fragment.array (xs.map item)).value := by
  refine .list fun i j hj => ?_
  simp only [List.map_map, List.getElem?_map, Option.map_eq_some_iff] at hj
  obtain ⟨v, hv, rfl⟩ := hj
  exact h i v hv

theorem shows_numbers {w : ℕ} (hw : 8 * (w / 8) = w) {xs : List (BitVec w)} (h : Entries t base xs) :
    Shows t (numberList base (w / 8)) (Fragment.array (xs.map fun v => .nat v.toNat)).value := by
  refine shows_array fun i v hv => ?_
  obtain ⟨bs, hbs, rfl⟩ := h i v hv
  exact shows_toNat hbs hw

theorem shows_hexNumbers {w : ℕ} (hw : 8 * (w / 8) = w) {xs : List (BitVec w)}
    (h : Entries t base xs) :
    Shows t (numberList base (w / 8))
      (Fragment.array (xs.map fun v => .quoted (hex v) (plain_hex v))).value := by
  refine shows_array fun i v hv => ?_
  obtain ⟨bs, hbs, rfl⟩ := h i v hv
  exact shows_hex hbs hw

theorem shows_uuids {xs : List (Vector UInt8 16)} (h : Entries t base xs) :
    Shows t (uuidList base) (Fragment.array (xs.map fun v => .string (formatUuid v))).value := by
  refine shows_array fun i v hv => ?_
  obtain ⟨bs, hbs, rfl⟩ := h i v hv
  exact shows_uuid hbs

theorem shows_record {size : ℕ} {bs : List UInt8} {rows : List Row} {m : Members}
    (hbs : Holds t base size bs) (hrows : rows.all (Row.fits size) = true)
    (hfits : Fits bs rows m.fields) (hgiven : Given t base rows m.fields) :
    Shows t (recordForm base rows) m.finish.value :=
  .object (shows_rows hbs hrows hfits hgiven)

theorem shows_records [Pod α] {xs : List α} {rows : List Row} {members : α → Members}
    (h : Entries t base xs) (hrows : rows.all (Row.fits (Pod.size α)) = true)
    (hfits : ∀ bs, Fits bs rows (members (Pod.ofBytes bs)).fields)
    (hgiven : ∀ a bs, Holds t a (Pod.size α) bs → Given t a rows (members (Pod.ofBytes bs)).fields) :
    Shows t (recordList base (Pod.size α) rows)
      (Fragment.array (xs.map fun v => (members v).finish)).value := by
  refine shows_array fun i v hv => ?_
  obtain ⟨bs, hbs, rfl⟩ := h i v hv
  exact shows_record hbs hrows (hfits bs) (hgiven _ bs hbs)

/-- Items that are made one after the other. -/
theorem shows_each {w : World Target} {g : α → Decoding Fragment} {xs : List α}
    {items : List Fragment} {f : ℕ → Form} (hrun : (Checked.forEach g xs w).outcome = .ok items)
    (h : ∀ i v item, xs[i]? = some v → (g v w).outcome = .ok item →
      Shows w.state (f i) item.value) :
    Shows w.state (.list f) (Fragment.array items).value := by
  refine .list fun i j hj => ?_
  rw [List.getElem?_map, Option.map_eq_some_iff] at hj
  obtain ⟨item, hitem, rfl⟩ := hj
  obtain ⟨v, hv, hg⟩ := Checked.ok_forEach hrun hitem
  exact h i v item hv hg

theorem shows_chosen {xs : List α} {item : α → Fragment} {f : ℕ → Form} (place : α → ℕ)
    (h : ∀ v ∈ xs, Shows t (f (place v)) (item v).value) :
    Shows t (.chosen f) (Fragment.array (xs.map item)).value := by
  refine .chosen (fun i => (xs[i]?.map place).getD 0) fun i j hj => ?_
  simp only [List.map_map, List.getElem?_map, Option.map_eq_some_iff] at hj
  obtain ⟨v, hv, rfl⟩ := hj
  rw [hv]
  exact h v (List.mem_of_getElem? hv)

end Lists

/-! ### Reports -/

/-- The members of a structure, and the status. -/
def reportForm (addr : ℕ) (rows : List Row) : Form :=
  .object (rows.map (Row.form addr) ++ [("status", .note)])

theorem shows_members {t : Target} {fs : List (String × Form)} {members : List Field}
    {status : String} (h : ShowsMembers t fs (members.map fun f => (f.key, f.value))) :
    Shows t (.object (fs ++ [("status", .note)])) (objectValue (members ++ [.str "status" status])) := by
  refine .object ?_
  have hmembers := h.mono fun m hm => List.mem_append_left [("status", Form.note)] hm
  rw [List.map_append]
  exact hmembers.append (.cons (List.mem_append_right _ List.mem_cons_self) (.text _) .nil)

theorem shows_fields {t : Target} {fs : List (String × Form)} {r : Report}
    (h : ShowsMembers t fs (r.members.map fun f => (f.key, f.value))) :
    Shows t (.object (fs ++ [("status", .note)])) (objectValue r.fields) := shows_members h

/-- A report has one status. -/
theorem Report.status_eq {r : Report} {s : String} (h : Field.str "status" s ∈ r.fields) :
    r.status = s := by
  rcases List.mem_append.mp h with hmem | hmem
  · have hkey : "status" ∈ r.members.map Field.key := List.mem_map_of_mem hmem
    have hdisjoint := List.disjoint_of_nodup_append r.nodup
    exact absurd List.mem_cons_self (hdisjoint hkey)
  · have heq := List.mem_singleton.mp hmem
    rw [Field.str.injEq] at heq
    exact heq.2.symm

theorem shows_report {t : Target} {addr size : ℕ} {bs : List UInt8} {rows : List Row} {r : Report}
    (hbs : Holds t addr size bs) (hrows : rows.all (Row.fits size) = true)
    (hfits : Fits bs rows r.members) (hgiven : Given t addr rows r.members) :
    Shows t (reportForm addr rows) (objectValue r.fields) :=
  shows_fields (shows_rows hbs hrows hfits hgiven)

/-- The part of a report that some of the rows are for. -/
theorem shows_part {t : Target} {addr size : ℕ} {bs : List UInt8} {rows part : List Row}
    {fields : List Field} (hsub : List.Sublist part rows) (hbs : Holds t addr size bs)
    (hpart : part.all (Row.fits size) = true) (hfits : Fits bs part fields)
    (hgiven : Given t addr part fields) :
    ShowsMembers t (rows.map (Row.form addr)) (fields.map fun f => (f.key, f.value)) := by
  refine (shows_rows hbs hpart hfits hgiven).mono fun m hm => ?_
  obtain ⟨r, hr, rfl⟩ := List.mem_map.mp hm
  exact List.mem_map_of_mem (hsub.subset hr)

theorem shows_failed (t : Target) (addr : ℕ) (rows : List Row) (status : String) :
    Shows t (reportForm addr rows) (objectValue (Report.failed status).fields) :=
  shows_fields .nil

end CudaTrace.Decode
