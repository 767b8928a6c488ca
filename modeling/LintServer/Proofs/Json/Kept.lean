import LintServer.Proofs.Json.Grammar

/-! # Values as they are kept

What holds of every value that was read (`kept_of_decodes`): its integers fit 64 bits, the
members of its objects are in strictly ascending order, and it is no deeper than the reader had
room for.  Members in order are an object as they are (`ofMembers_of_ascending`).
-/
namespace LintServer.Json
open Reader Grammar

/-! ## Depth -/

mutual

/-- How many arrays and objects are open at once, at most. -/
def depth : Json → Nat
  | .array items => itemsDepth items + 1
  | .object members => membersDepth members + 1
  | _ => 0

/-- The depth of the deepest item. -/
def itemsDepth : List Json → Nat
  | [] => 0
  | v :: more => max v.depth (itemsDepth more)

/-- The depth of the deepest member. -/
def membersDepth : List (String × Json) → Nat
  | [] => 0
  | (_, v) :: more => max v.depth (membersDepth more)

end

theorem itemsDepth_le_iff {items : List Json} {n : Nat} :
    itemsDepth items ≤ n ↔ ∀ v ∈ items, v.depth ≤ n := by
  induction items with
  | nil => simp [itemsDepth]
  | cons v more ih => simp only [itemsDepth, Nat.max_le, ih, List.forall_mem_cons]

theorem membersDepth_le_iff {members : List (String × Json)} {n : Nat} :
    membersDepth members ≤ n ↔ ∀ m ∈ members, m.2.depth ≤ n := by
  induction members with
  | nil => simp [membersDepth]
  | cons m more ih =>
    obtain ⟨k, v⟩ := m
    simp only [membersDepth, Nat.max_le, ih, List.forall_mem_cons]

/-! ## Values as they are kept -/

/-- **How values are kept**: integers in the range of 64-bit words, with or without sign, and
members of objects in strictly ascending order of their keys. -/
inductive Kept : Json → Prop
  | null : Kept .null
  | bool (b : Bool) : Kept (.bool b)
  | integer {n : Int} : -0x8000000000000000 ≤ n → n < 0x10000000000000000 →
      Kept (.number (.integer n))
  | real (x : Double) : Kept (.number (.real x))
  | string (s : String) : Kept (.string s)
  | array {items : List Json} : (∀ v ∈ items, Kept v) → Kept (.array items)
  | object {members : List (String × Json)} : members.Pairwise (fun m m' => m.1 < m'.1) →
      (∀ m ∈ members, Kept m.2) → Kept (.object members)

/-- A value whose numbers are integers. -/
inductive Integral : Json → Prop
  | null : Integral .null
  | bool (b : Bool) : Integral (.bool b)
  | integer (n : Int) : Integral (.number (.integer n))
  | string (s : String) : Integral (.string s)
  | array {items : List Json} : (∀ v ∈ items, Integral v) → Integral (.array items)
  | object {members : List (String × Json)} : (∀ m ∈ members, Integral m.2) →
      Integral (.object members)

/-! ## Objects in order -/

/-- A key behind all others goes to the end. -/
theorem insert_of_lt {key : String} {v : Json} {members : List (String × Json)}
    (h : ∀ m ∈ members, m.1 < key) : insert key v members = members ++ [(key, v)] := by
  induction members with
  | nil => rfl
  | cons m more ih =>
    obtain ⟨k, u⟩ := m
    have hk : k < key := h (k, u) (by simp)
    have hne : ¬ key = k := by
      rintro rfl
      exact String.lt_irrefl _ hk
    rw [insert, if_neg (String.lt_asymm hk), if_neg hne,
      ih fun m hm => h m (List.mem_cons_of_mem _ hm)]
    rfl

theorem foldl_insert {done members : List (String × Json)}
    (h : (done ++ members).Pairwise fun m m' => m.1 < m'.1) :
    members.foldl (fun done (k, v) => insert k v done) done = done ++ members := by
  induction members generalizing done with
  | nil => simp
  | cons m more ih =>
    obtain ⟨k, v⟩ := m
    have hlast : ∀ m ∈ done, m.1 < k := fun m hm =>
      (List.pairwise_append.mp h).2.2 m hm (k, v) (by simp)
    rw [List.foldl_cons]
    dsimp only
    rw [insert_of_lt hlast, ih (by simpa using h)]
    simp

/-- Members in order are an object as they are. -/
theorem ofMembers_of_ascending {members : List (String × Json)}
    (h : members.Pairwise fun m m' => m.1 < m'.1) : ofMembers members = .object members := by
  have hfold := foldl_insert (show ([] ++ members).Pairwise _ from h)
  rw [ofMembers, hfold]
  rfl

/-! ## Values that are read -/

theorem mem_insert {key : String} {v : Json} {members : List (String × Json)} {m : String × Json}
    (h : m ∈ insert key v members) : m = (key, v) ∨ m ∈ members := by
  induction members with
  | nil => simpa [insert] using h
  | cons n more ih =>
    obtain ⟨k, u⟩ := n
    rw [insert] at h
    grind

/-- Members stay in order. -/
theorem pairwise_insert {key : String} {v : Json} {members : List (String × Json)}
    (h : members.Pairwise fun m m' => m.1 < m'.1) :
    (insert key v members).Pairwise fun m m' => m.1 < m'.1 := by
  induction members with
  | nil => simp [insert]
  | cons n more ih =>
    obtain ⟨k, u⟩ := n
    obtain ⟨hmore, hpair⟩ := List.pairwise_cons.mp h
    rw [insert]
    split
    next hlt =>
      refine List.pairwise_cons.mpr ⟨fun m hm => ?_, h⟩
      rcases List.mem_cons.mp hm with rfl | hm
      · exact hlt
      · exact String.lt_trans hlt (hmore m hm)
    next hlt =>
      split
      next heq =>
        subst heq
        exact List.pairwise_cons.mpr ⟨hmore, hpair⟩
      next hne =>
        refine List.pairwise_cons.mpr ⟨fun m hm => ?_, ih hpair⟩
        rcases mem_insert hm with rfl | hm
        · exact String.not_le.mp fun hle => hne (String.le_antisymm hle (String.not_lt.mp hlt))
        · exact hmore m hm

/-- What a property of members that insertion keeps says about an object. -/
theorem foldl_insert_induction {P : List (String × Json) → Prop}
    (hinsert : ∀ {done k v}, P done → P (insert k v done)) {done members : List (String × Json)}
    (h : P done) : P (members.foldl (fun done (k, v) => insert k v done) done) := by
  induction members generalizing done with
  | nil => exact h
  | cons m more ih => exact ih (hinsert h)

theorem mem_foldl_insert {done members : List (String × Json)} {m : String × Json}
    (h : m ∈ members.foldl (fun done (k, v) => insert k v done) done) : m ∈ done ∨ m ∈ members := by
  induction members generalizing done with
  | nil => exact .inl h
  | cons n more ih =>
    rcases ih h with h | h
    · rcases mem_insert h with rfl | h
      · exact .inr (by simp)
      · exact .inl h
    · exact .inr (List.mem_cons_of_mem _ h)

theorem gather_le {limit n : Nat} (hn : n ≤ limit) (ds : List UInt8) :
    (gather limit n ds).1 ≤ limit := by
  induction ds generalizing n with
  | nil => exact hn
  | cons d ds ih =>
    rw [gather]
    split
    next hle => exact ih hle
    next => exact hn

theorem kept_scaled {negative : Bool} {m : Nat} {power : Int} {n : Number}
    (h : scaled negative m power = some n) : Kept (.number n) := by
  obtain ⟨x, -, rfl⟩ := Option.map_eq_some_iff.mp h
  exact .real _

theorem kept_raised {negative : Bool} {m : Nat} {power : Int} {ex : Option (Bool × List UInt8)}
    {n : Number} (h : raised negative m power ex = some n) : Kept (.number n) := by
  unfold raised at h
  split at h
  next => exact kept_scaled h
  next =>
    split at h
    next => exact kept_scaled h
    next =>
      split at h
      next => cases h
      next =>
        cases h
        exact .real _

theorem kept_integral {negative : Bool} {digits : List UInt8} {n : Number}
    (h : integral negative digits = some n) : Kept (.number n) := by
  have hle := gather_le (Nat.zero_le significandLimit) digits
  unfold integral at h
  split at h
  next m hgather =>
    rw [hgather, significandLimit] at hle
    split at h
    next =>
      cases h
      exact .integer (by omega) (by omega)
    next =>
      split at h
      next hm =>
        cases h
        exact .integer (by omega) (by omega)
      next => exact kept_scaled h
  next => exact kept_scaled h

/-- A number that is read as an integer fits 64 bits. -/
theorem kept_number {l : Literal} {negative : Bool} {n : Number}
    (h : l.number? negative = some n) : Kept (.number n) := by
  unfold Literal.number? at h
  split at h
  next => exact kept_integral h
  next => exact kept_raised h

/-- Every value that is read is no deeper than the reader had room for, and is kept in order. -/
theorem kept_of_decodes {room : Nat} {w : List UInt8} {v : Json} (h : Decodes room w v) :
    v.depth ≤ room ∧ v.Kept := by
  have hscalar {w : List UInt8} {v : Json} (hw : Scalar w v) : v.depth = 0 ∧ v.Kept := by
    cases hw with
    | null => exact ⟨rfl, .null⟩
    | true => exact ⟨rfl, .bool true⟩
    | false => exact ⟨rfl, .bool false⟩
    | number _ hn => exact ⟨rfl, kept_number hn⟩
    | negative _ hn => exact ⟨rfl, kept_number hn⟩
    | string _ => exact ⟨rfl, .string _⟩
  induction room generalizing w v with
  | zero =>
    obtain ⟨hdepth, hkept⟩ := hscalar h
    exact ⟨Nat.le_of_eq hdepth, hkept⟩
  | succ room ih =>
    cases h with
    | scalar hw =>
      obtain ⟨hdepth, hkept⟩ := hscalar hw
      exact ⟨hdepth ▸ Nat.zero_le _, hkept⟩
    | array hw =>
      have hitems {v : Json} (hv : v ∈ _) : v.depth ≤ room ∧ v.Kept :=
        ih (hw.exists_word hv).choose_spec
      exact ⟨Nat.succ_le_succ (itemsDepth_le_iff.mpr fun v hv => (hitems hv).1),
        .array fun v hv => (hitems hv).2⟩
    | @object w ms hw =>
      have hmembers {m : String × Json}
          (hm : m ∈ ms.foldl (fun done (k, v) => insert k v done) []) :
          m.2.depth ≤ room ∧ m.2.Kept := by
        rcases mem_foldl_insert hm with hm | hm
        · cases hm
        · obtain ⟨_, hmember⟩ := hw.exists_word hm
          obtain ⟨_, _, _, hw⟩ := hmember
          exact ih hw
      exact ⟨Nat.succ_le_succ (membersDepth_le_iff.mpr fun m hm => (hmembers hm).1),
        .object (foldl_insert_induction pairwise_insert List.Pairwise.nil)
          fun m hm => (hmembers hm).2⟩

end LintServer.Json
