import LintServer.Json.Printer
import LintServer.Proofs.Json.Kept
import LintServer.Proofs.Json.Values

/-! # Printed values are read back

A printed value is a word of the grammar, with no more arrays and objects open at once than the
value is deep (`decodes_chars`).  So **it is read back just if the reader goes that deep**
(`parse_chars_iff`), and two values that are printed alike are the same (`eq_of_chars`).  A
printed value has no raw controls (`Integral.printable`).

This holds of values as they are kept (`Kept`) whose numbers are integers (`Integral`): other
numbers are rounded when they are read.
-/
namespace LintServer.Json
open Reader Grammar

/-! ## Texts -/

theorem escaped_plain_append {bytes raw out : List UInt8}
    (hbytes : ∀ b ∈ bytes, b ≠ 34 ∧ b ≠ 92 ∧ 32 ≤ b) (h : Escaped raw out) :
    Escaped (bytes ++ raw) (bytes ++ out) := by
  induction bytes with
  | nil => exact h
  | cons b bytes ih =>
    obtain ⟨hquote, hslash, hlow⟩ := hbytes b (by simp)
    exact .plain hquote hslash hlow (ih fun c hc => hbytes c (List.mem_cons_of_mem _ hc))

/-- The bytes of a character that is not escaped. -/
theorem encodeChar_plain {c : Char} (hquote : c ≠ '"') (hslash : c ≠ '\\') (hlow : 32 ≤ c.toNat) :
    ∀ b ∈ Utf8.encodeChar c, b ≠ 34 ∧ b ≠ 92 ∧ 32 ≤ b := by
  have hvalid : c.toNat < 0xD800 ∨ 0xDFFF < c.toNat ∧ c.toNat < 0x110000 := c.valid
  have hbyte {n : Nat} (hn : n < 256) (h : n ≠ 34 ∧ n ≠ 92 ∧ 32 ≤ n) :
      UInt8.ofNat n ≠ 34 ∧ UInt8.ofNat n ≠ 92 ∧ 32 ≤ UInt8.ofNat n := by
    simp only [ne_eq, ← UInt8.toNat_inj, UInt8.le_iff_toNat_le, Utf8.toNat_byte hn]
    exact h
  have hne {d : Char} (hd : c ≠ d) : c.toNat ≠ d.toNat := fun h => hd (Char.toNat_inj.mp h)
  have hquote' : c.toNat ≠ 34 := hne hquote
  have hslash' : c.toNat ≠ 92 := hne hslash
  unfold Utf8.encodeChar
  dsimp only
  generalize c.toNat = n at *
  split
  · simpa using hbyte (by omega) ⟨hquote', hslash', hlow⟩
  · split
    · simp only [List.mem_cons, List.not_mem_nil, or_false, forall_eq_or_imp, forall_eq]
      exact ⟨hbyte (by omega) (by omega), hbyte (by omega) (by omega)⟩
    · split
      · simp only [List.mem_cons, List.not_mem_nil, or_false, forall_eq_or_imp, forall_eq]
        exact ⟨hbyte (by omega) (by omega), hbyte (by omega) (by omega),
          hbyte (by omega) (by omega)⟩
      · simp only [List.mem_cons, List.not_mem_nil, or_false, forall_eq_or_imp, forall_eq]
        exact ⟨hbyte (by omega) (by omega), hbyte (by omega) (by omega),
          hbyte (by omega) (by omega), hbyte (by omega) (by omega)⟩

/-- The byte of a hexadecimal digit. -/
theorem hexValue?_digitChar : ∀ d < 16, ∃ b, Utf8.encodeChar (Nat.digitChar d) = [b] ∧
    hexValue? b = some d := by
  have hdigit : ∀ d < 16,
      Utf8.encodeChar (Nat.digitChar d) = [UInt8.ofNat (Nat.digitChar d).toNat] ∧
      hexValue? (UInt8.ofNat (Nat.digitChar d).toNat) = some d := by decide
  exact fun d hd => ⟨_, hdigit d hd⟩

/-- How a character stands in a text: as a letter behind a backslash, as its number, or as it
is. -/
inductive Spelled (c : Char) : List Char → Prop
  | letter {e : Char} {b b' : UInt8} : 32 ≤ e.toNat → Utf8.encodeChar e = [b] →
      escapeByte? b = some b' → Utf8.encodeChar c = [b'] → Spelled c ['\\', e]
  | number : c.toNat < 32 → Spelled c (['\\', 'u', '0', '0'] ++ hexPair c.toNat)
  | plain : c ≠ '"' → c ≠ '\\' → 32 ≤ c.toNat → Spelled c [c]

theorem spelled_escaped (c : Char) : Spelled c (escaped c) := by
  have hchar {n : Nat} (hn : c.toNat = n) : c = Char.ofNat n := by rw [← hn, Char.ofNat_toNat]
  unfold escaped
  split
  next hc => subst hc; exact .letter (b := 34) (by decide) rfl rfl rfl
  split
  next hc => subst hc; exact .letter (b := 92) (by decide) rfl rfl rfl
  split
  next hc => subst hc; exact .letter (b := 110) (by decide) rfl rfl rfl
  split
  next hc => subst hc; exact .letter (b := 114) (by decide) rfl rfl rfl
  split
  next hc => subst hc; exact .letter (b := 116) (by decide) rfl rfl rfl
  split
  next hc => rw [hchar hc]; exact .letter (b := 98) (by decide) rfl rfl rfl
  split
  next hc => rw [hchar hc]; exact .letter (b := 102) (by decide) rfl rfl rfl
  split
  next hlow => exact .number hlow
  next hquote hslash _ _ _ _ _ hlow => exact .plain hquote hslash (Nat.not_lt.mp hlow)

/-- The number of a control, written out, is read back. -/
theorem escaped_number_append {c : Char} (hlow : c.toNat < 32) {raw out : List UInt8}
    (h : Escaped raw out) :
    Escaped (Utf8.encode (['\\', 'u', '0', '0'] ++ hexPair c.toNat) ++ raw)
      (Utf8.encodeChar c ++ out) := by
  obtain ⟨a, ha, hav⟩ := hexValue?_digitChar (c.toNat / 16) (by omega)
  obtain ⟨b, hb, hbv⟩ := hexValue?_digitChar (c.toNat % 16) (by omega)
  have hpair : Utf8.encode (hexPair c.toNat) = [a, b] := by simp [hexPair, Utf8.encode, ha, hb]
  have hraw : Utf8.encode (['\\', 'u', '0', '0'] ++ hexPair c.toNat) =
      [92, 117, 48, 48, a, b] := by
    rw [Utf8.encode_append, hpair]
    rfl
  have hhex : hex4? 48 48 a b = some c.toNat := by
    have hzero : hexValue? 48 = some 0 := by decide
    simp only [hex4?, hzero, hav, hbv, Option.bind_eq_bind, Option.bind_some, Option.pure_def,
      Option.some.injEq]
    omega
  have hunit := Escaped.unit hhex (by simp [isLeading]; omega) (by simp [isTrailing]; omega) h
  rw [Char.ofNat_toNat] at hunit
  rw [hraw]
  exact hunit

theorem escaped_append (c : Char) {raw out : List UInt8} (h : Escaped raw out) :
    Escaped (Utf8.encode (escaped c) ++ raw) (Utf8.encodeChar c ++ out) := by
  have hspelled := spelled_escaped c
  generalize escaped c = cs at hspelled
  cases hspelled with
  | letter _ he hbyte hc =>
    have hletter := Escaped.letter hbyte h
    rw [Utf8.encode_cons, Utf8.encode_cons, he, hc]
    exact hletter
  | number hlow => exact escaped_number_append hlow h
  | plain hquote hslash hlow =>
    have hplain := encodeChar_plain hquote hslash hlow
    have hc : Utf8.encode [c] = Utf8.encodeChar c := by simp [Utf8.encode]
    rw [hc]
    exact escaped_plain_append hplain h

/-- A text is read back from how it is written. -/
theorem text_escaped (t : String) : Text (Utf8.encode (t.toList.flatMap escaped)) t := by
  unfold Text Utf8.ofString
  induction t.toList with
  | nil => exact .nil
  | cons c cs ih =>
    rw [List.flatMap_cons, Utf8.encode_append, Utf8.encode_cons]
    exact escaped_append c ih

/-! ## Integers -/

/-- The bytes of a number's decimal digits. -/
def decimal (n : Nat) : List UInt8 := Utf8.encode (Nat.toDigits 10 n)

/-- The byte of a decimal digit. -/
def digit (d : Nat) : UInt8 := UInt8.ofNat (48 + d)

theorem encodeChar_digitChar : ∀ d < 10, Utf8.encodeChar (Nat.digitChar d) = [digit d] := by
  decide

theorem isDigit_digit : ∀ d < 10, isDigit (digit d) = true := by
  decide

theorem digitValue_digit {d : Nat} (hd : d < 10) : digitValue (digit d) = d := by
  rw [digitValue, digit, Utf8.toNat_byte (by omega)]
  omega

/-- What holds of the digits of a number if it holds of single digits and is kept when a digit
is put behind others. -/
theorem decimal_induction {P : Nat → List UInt8 → Prop} (hone : ∀ d < 10, P d [digit d])
    (hmore : ∀ n ds d, n ≠ 0 → d < 10 → P n ds → P (10 * n + d) (ds ++ [digit d])) (n : Nat) :
    P n (decimal n) := by
  induction n using Nat.strongRecOn with
  | ind n ih =>
    rcases Nat.lt_or_ge n 10 with hlt | hge
    · have hbytes : decimal n = [digit n] := by
        simpa [decimal, Utf8.encode, Nat.toDigits_of_lt_base hlt] using encodeChar_digitChar n hlt
      rw [hbytes]
      exact hone n hlt
    · have hlast : n % 10 < 10 := Nat.mod_lt n (by omega)
      have hbytes : decimal n = decimal (n / 10) ++ [digit (n % 10)] := by
        rw [decimal, Nat.toDigits_of_base_le (by omega) hge, Utf8.encode_append]
        simpa [decimal, Utf8.encode] using encodeChar_digitChar (n % 10) hlast
      have hstep := hmore (n / 10) _ (n % 10) (by omega) hlast (ih (n / 10) (by omega))
      rw [Nat.div_add_mod] at hstep
      rw [hbytes]
      exact hstep

/-- Only zero has digits that begin with a zero. -/
theorem digits_decimal (n : Nat) :
    Digits (decimal n) ∧ ((decimal n).head? = some 48 → n = 0) := by
  refine decimal_induction (P := fun n ds => Digits ds ∧ (ds.head? = some 48 → n = 0)) ?_ ?_ n
  · have hzero : ∀ d < 10, digit d = 48 → d = 0 := by decide
    intro d hd
    exact ⟨⟨by simp, by simpa using isDigit_digit d hd⟩, by simpa using hzero d hd⟩
  · rintro n ds d hn hd ⟨⟨hne, hall⟩, hhead⟩
    obtain ⟨c, cs, rfl⟩ := List.exists_cons_of_ne_nil hne
    refine ⟨⟨by simp, fun b hb => ?_⟩, fun h => absurd (hhead h) hn⟩
    rcases List.mem_append.mp hb with hb | hb
    · exact hall b hb
    · rw [List.mem_singleton.mp hb]
      exact isDigit_digit d hd

theorem whole_decimal (n : Nat) : Whole (decimal n) := by
  obtain ⟨hdigits, hhead⟩ := digits_decimal n
  refine ⟨hdigits, fun h => ?_⟩
  rw [hhead h]
  decide

theorem gather_append {limit : Nat} {ds more : List UInt8} {n m : Nat}
    (h : gather limit n ds = (m, [])) : gather limit n (ds ++ more) = gather limit m more := by
  induction ds generalizing n with
  | nil =>
    obtain rfl : n = m := by simpa [gather] using h
    rfl
  | cons d ds ih =>
    rw [gather] at h
    split at h
    next hle =>
      rw [List.cons_append, gather, if_pos hle]
      exact ih h
    next => cases h

theorem gather_decimal {limit n : Nat} (hn : n ≤ limit) :
    gather limit 0 (decimal n) = (n, []) := by
  refine decimal_induction (P := fun n ds => n ≤ limit → gather limit 0 ds = (n, [])) ?_ ?_ n hn
  · intro d hd hle
    simp only [gather, digitValue_digit hd]
    rw [if_pos (by omega)]
    simp
  · intro n ds d _ hd ih hle
    rw [gather_append (ih (by omega))]
    simp only [gather, digitValue_digit hd]
    rw [if_pos (by omega)]
    simp only [Prod.mk.injEq, and_true]
    omega

/-- Digits alone are a numeral. -/
theorem numeral_decimal (n : Nat) : Numeral (decimal n) ⟨decimal n, [], none⟩ := by
  have hnumeral := Numeral.intro (whole_decimal n) .absent .absent
  rwa [List.append_nil, List.append_nil] at hnumeral

theorem text_ofNat (m : Nat) : (Number.integer (.ofNat m)).text.toList = Nat.toDigits 10 m := by
  simp [Number.text, Int.toString_eq_repr, Int.repr, Nat.repr]

theorem text_negSucc (m : Nat) :
    (Number.integer (.negSucc m)).text.toList = '-' :: Nat.toDigits 10 (m + 1) := by
  simp [Number.text, Int.toString_eq_repr, Int.repr, Nat.repr]

/-- An integer of 64 bits is read back from its digits. -/
theorem scalar_integer {n : Int} (hlow : -0x8000000000000000 ≤ n)
    (hhigh : n < 0x10000000000000000) :
    Scalar (Utf8.encode (Number.integer n).text.toList) (.number (.integer n)) := by
  cases n with
  | ofNat m =>
    have hgather : gather significandLimit 0 (decimal m) = (m, []) :=
      gather_decimal (by simp only [significandLimit, Int.ofNat_eq_natCast] at *; omega)
    rw [text_ofNat]
    refine .number (numeral_decimal m) ?_
    simp [Literal.number?, Grammar.integral, hgather]
  | negSucc m =>
    have hgather : gather significandLimit 0 (decimal (m + 1)) = (m + 1, []) :=
      gather_decimal (by simp only [significandLimit]; omega)
    rw [text_negSucc]
    refine .negative (numeral_decimal (m + 1)) ?_
    simp only [Literal.number?, Grammar.integral, hgather, and_self, if_true]
    rw [if_neg (by decide), if_pos (by omega)]
    rfl

/-! ## Values -/

/-- The items after the first. -/
theorem chain_itemChars {P : List UInt8 → Json → Prop} {items : List Json}
    (h : ∀ v ∈ items, P (Utf8.encode v.chars) v) :
    Chain P false (Utf8.encode (itemChars items)) items := by
  induction items with
  | nil => exact .done blank_nil
  | cons v more ih =>
    have hmore := ih fun u hu => h u (List.mem_cons_of_mem _ hu)
    have hchain := Chain.item (.comma blank_nil blank_nil) (h v (by simp)) hmore
    rw [itemChars, Utf8.encode_append]
    exact hchain

theorem encode_quotedChars (t : String) :
    Utf8.encode (quotedChars t) = 34 :: (Utf8.encode (t.toList.flatMap escaped) ++ [34]) := by
  rw [quotedChars, Utf8.encode_append]
  rfl

theorem member_chars {P : List UInt8 → Json → Prop} (key : String) {v : Json}
    (h : P (Utf8.encode v.chars) v) :
    Member Text (fun _ => P) (Utf8.encode (quotedChars key ++ ':' :: v.chars)) (key, v) := by
  have hmember := Member.intro (P := fun _ => P) (text_escaped key) blank_nil blank_nil h
  have hbytes : Utf8.encode (quotedChars key ++ ':' :: v.chars) =
      34 :: (Utf8.encode (key.toList.flatMap escaped) ++ 34 :: 58 :: Utf8.encode v.chars) := by
    rw [Utf8.encode_append, encode_quotedChars, List.cons_append, List.append_assoc]
    rfl
  rw [hbytes]
  exact hmember

/-- The members after the first. -/
theorem chain_memberChars {P : List UInt8 → Json → Prop} {members : List (String × Json)}
    (h : ∀ m ∈ members, P (Utf8.encode m.2.chars) m.2) :
    Chain (Member Text fun _ => P) false (Utf8.encode (memberChars members)) members := by
  induction members with
  | nil => exact .done blank_nil
  | cons m more ih =>
    obtain ⟨key, v⟩ := m
    have hmore := ih fun u hu => h u (List.mem_cons_of_mem _ hu)
    have hmember := member_chars key (h (key, v) (by simp))
    have hchain := Chain.item (.comma blank_nil blank_nil) hmember hmore
    have hbytes : Utf8.encode (memberChars ((key, v) :: more)) =
        44 :: (Utf8.encode (quotedChars key ++ ':' :: v.chars) ++
          Utf8.encode (memberChars more)) := by
      rw [memberChars, Utf8.encode_append]
      rfl
    rw [hbytes]
    exact hchain

theorem composite_array {P : List UInt8 → Json → Prop} {items : List Json}
    (h : ∀ v ∈ items, P (Utf8.encode v.chars) v) :
    (decoding ofMembers).Composite P (Utf8.encode (Json.array items).chars) (.array items) := by
  cases items with
  | nil =>
    rw [chars]
    exact .array (.done blank_nil)
  | cons v more =>
    have hmore := chain_itemChars fun u hu => h u (List.mem_cons_of_mem v hu)
    have hchain := Chain.item (.start blank_nil) (h v (by simp)) hmore
    have hbytes : Utf8.encode (Json.array (v :: more)).chars =
        91 :: (Utf8.encode v.chars ++ Utf8.encode (itemChars more) ++ [93]) := by
      rw [chars, Utf8.encode_append, Utf8.encode_append]
      rfl
    rw [hbytes]
    exact .array hchain

theorem composite_object {P : List UInt8 → Json → Prop} {members : List (String × Json)}
    (hkeys : members.Pairwise fun m m' => m.1 < m'.1)
    (h : ∀ m ∈ members, P (Utf8.encode m.2.chars) m.2) :
    (decoding ofMembers).Composite P (Utf8.encode (Json.object members).chars)
      (.object members) := by
  have hobject {w : List UInt8} (hw : Chain (Member Text fun _ => P) true w members) :
      (decoding ofMembers).Composite P (123 :: (w ++ [125])) (.object members) := by
    rw [← ofMembers_of_ascending hkeys]
    exact .object hw
  cases members with
  | nil =>
    rw [chars]
    exact hobject (.done blank_nil)
  | cons m more =>
    obtain ⟨key, v⟩ := m
    have hmore := chain_memberChars fun u hu => h u (List.mem_cons_of_mem (key, v) hu)
    have hchain := Chain.item (.start blank_nil) (member_chars key (h (key, v) (by simp))) hmore
    have hbytes : Utf8.encode (Json.object ((key, v) :: more)).chars =
        123 :: (Utf8.encode (quotedChars key ++ ':' :: v.chars) ++
          Utf8.encode (memberChars more) ++ [125]) := by
      rw [chars, Utf8.encode_append, Utf8.encode_append]
      rfl
    rw [hbytes]
    exact hobject hchain

/-- **A printed value is a word of the grammar**, no deeper than the value. -/
theorem decodes_chars {v : Json} (hkept : v.Kept) (hint : v.Integral) {room : Nat}
    (hroom : v.depth ≤ room) : Decodes room (Utf8.encode v.chars) v := by
  have hscalar {w : List UInt8} {v : Json} {room : Nat} (hw : Scalar w v) : Decodes room w v :=
    Reading.Value.mono (Nat.zero_le room) hw
  induction hkept generalizing room with
  | null => exact hscalar .null
  | bool b =>
    cases b with
    | false => exact hscalar .false
    | true => exact hscalar .true
  | integer hlow hhigh => exact hscalar (scalar_integer hlow hhigh)
  | real x => cases hint
  | string t =>
    rw [chars, encode_quotedChars]
    exact hscalar (.string (text_escaped t))
  | array _ ih =>
    cases hint with
    | array hint =>
      rw [depth] at hroom
      obtain ⟨room, rfl⟩ : ∃ n, room = n + 1 := ⟨room - 1, by omega⟩
      have hitems := itemsDepth_le_iff.mp (Nat.le_of_succ_le_succ hroom)
      exact composite_array fun v hv => ih v hv (hint v hv) (hitems v hv)
  | object hkeys _ ih =>
    cases hint with
    | object hint =>
      rw [depth] at hroom
      obtain ⟨room, rfl⟩ : ∃ n, room = n + 1 := ⟨room - 1, by omega⟩
      have hmembers := membersDepth_le_iff.mp (Nat.le_of_succ_le_succ hroom)
      exact composite_object hkeys fun m hm => ih m hm (hint m hm) (hmembers m hm)

/-! ## No controls -/

/-- Characters that are no controls. -/
def Printable (cs : List Char) : Prop := ∀ c ∈ cs, 32 ≤ c.toNat

theorem Printable.append {cs ds : List Char} (hcs : Printable cs) (hds : Printable ds) :
    Printable (cs ++ ds) := by
  intro c hc
  exact (List.mem_append.mp hc).elim (hcs c) (hds c)

theorem Printable.cons {c : Char} {cs : List Char} (hc : 32 ≤ c.toNat) (hcs : Printable cs) :
    Printable (c :: cs) :=
  List.forall_mem_cons.mpr ⟨hc, hcs⟩

theorem printable_singleton {c : Char} (hc : 32 ≤ c.toNat) : Printable [c] := by
  simpa [Printable] using hc

theorem printable_escaped (c : Char) : Printable (escaped c) := by
  have hdigit : ∀ d < 16, 32 ≤ (Nat.digitChar d).toNat := by decide
  have hspelled := spelled_escaped c
  generalize escaped c = cs at hspelled
  cases hspelled with
  | letter hvisible _ _ _ => exact .cons (by decide) (printable_singleton hvisible)
  | number hlow =>
    have hhex : Printable (hexPair c.toNat) :=
      .cons (hdigit _ (by omega)) (printable_singleton (hdigit _ (by omega)))
    exact .append (by simp [Printable]) hhex
  | plain _ _ hlow => exact printable_singleton hlow

theorem printable_quotedChars (t : String) : Printable (quotedChars t) := by
  refine .append (.cons (by decide) fun c hc => ?_) (printable_singleton (by decide))
  obtain ⟨d, -, hd⟩ := List.mem_flatMap.mp hc
  exact printable_escaped d c hd

theorem printable_toDigits (n : Nat) : Printable (Nat.toDigits 10 n) := by
  intro c hc
  have hdigit := Nat.isDigit_of_mem_toDigits (by omega) (by omega) hc
  have hzero : '0'.val ≤ c.val := by
    simp only [Char.isDigit, Bool.and_eq_true, decide_eq_true_eq] at hdigit
    exact hdigit.1
  have hle : '0'.toNat ≤ c.toNat := hzero
  exact Nat.le_trans (by decide) hle

theorem printable_itemChars {items : List Json} (h : ∀ v ∈ items, Printable v.chars) :
    Printable (itemChars items) := by
  induction items with
  | nil => simp [itemChars, Printable]
  | cons v more ih =>
    rw [itemChars]
    have hmore := ih fun u hu => h u (List.mem_cons_of_mem _ hu)
    exact .append (.cons (by decide) (h v (by simp))) hmore

theorem printable_memberChars {members : List (String × Json)}
    (h : ∀ m ∈ members, Printable m.2.chars) : Printable (memberChars members) := by
  induction members with
  | nil => simp [memberChars, Printable]
  | cons m more ih =>
    obtain ⟨k, v⟩ := m
    have hkey := Printable.cons (c := ',') (by decide) (printable_quotedChars k)
    have hvalue := Printable.cons (c := ':') (by decide) (h (k, v) (by simp))
    rw [memberChars]
    exact (hkey.append hvalue).append (ih fun u hu => h u (List.mem_cons_of_mem _ hu))

/-- **A printed value has no raw controls.** -/
theorem Integral.printable {v : Json} (h : v.Integral) : Printable v.chars := by
  induction h with
  | null => simp [chars, Printable]
  | bool b => cases b <;> simp [chars, Printable]
  | integer n =>
    rw [chars]
    cases n with
    | ofNat m =>
      rw [text_ofNat]
      exact printable_toDigits m
    | negSucc m =>
      rw [text_negSucc]
      exact .cons (by decide) (printable_toDigits (m + 1))
  | string t =>
    rw [chars]
    exact printable_quotedChars t
  | @array items _ ih =>
    cases items with
    | nil => simp [chars, Printable]
    | cons v more =>
      have hmore := printable_itemChars fun u hu => ih u (List.mem_cons_of_mem v hu)
      have hfirst := Printable.cons (c := '[') (by decide) (ih v (by simp))
      rw [chars]
      exact (hfirst.append hmore).append (printable_singleton (by decide))
  | @object members _ ih =>
    cases members with
    | nil => simp [chars, Printable]
    | cons m more =>
      obtain ⟨k, v⟩ := m
      have hmore := printable_memberChars fun u hu => ih u (List.mem_cons_of_mem (k, v) hu)
      have hkey := Printable.cons (c := '\x7b') (by decide) (printable_quotedChars k)
      have hvalue := Printable.cons (c := ':') (by decide) (ih (k, v) (by simp))
      rw [chars]
      exact ((hkey.append hvalue).append hmore).append (printable_singleton (by decide))

theorem Printable.bytes {cs : List Char} (h : Printable cs) : ∀ b ∈ Utf8.encode cs, 32 ≤ b := by
  intro b hb
  obtain ⟨c, hc, hbc⟩ := List.mem_flatMap.mp hb
  by_cases hquote : c = '"'
  · subst hquote
    obtain rfl : b = 34 := List.mem_singleton.mp hbc
    decide
  · by_cases hslash : c = '\\'
    · subst hslash
      obtain rfl : b = 92 := List.mem_singleton.mp hbc
      decide
    · exact (encodeChar_plain hquote hslash (h c hc) b hbc).2.2

/-! ## Round trips -/

/-- A printed value is read back where there is room for it. -/
theorem value_chars {v : Json} (hkept : v.Kept) (hint : v.Integral) {room : Nat}
    (hroom : v.depth ≤ room) : value room (Utf8.encode v.chars) = .ok (v, []) := by
  have hread := (reads_decoded room).complete blank_nil (decodes_chars hkept hint hroom)
    (show Stops [] by simp [Stops])
  simpa using hread

/-- **A printed value is read back** just if it is no deeper than the reader goes. -/
theorem parse_chars_iff {v : Json} (hkept : v.Kept) (hint : v.Integral) :
    parse (Utf8.encode v.chars) = .ok v ↔ v.depth ≤ depthLimit := by
  constructor
  · intro hparse
    obtain ⟨_, _, _, _, _, _, hw⟩ := parse_eq_ok_iff.mp hparse
    exact (kept_of_decodes hw).1
  · intro hdepth
    have hw := decodes_chars hkept hint hdepth
    exact parse_eq_ok_iff.mpr ⟨[], _, [], blank_nil, blank_nil, by simp, hw⟩

/-- **A value is known by how it is printed.** -/
theorem eq_of_chars {u v : Json} (hu : u.Kept) (hu' : u.Integral) (hv : v.Kept)
    (hv' : v.Integral) (h : Utf8.encode u.chars = Utf8.encode v.chars) : u = v := by
  have hread := value_chars hu hu' (Nat.le_max_left u.depth v.depth)
  rw [h, value_chars hv hv' (Nat.le_max_right u.depth v.depth)] at hread
  cases hread
  rfl

end LintServer.Json
