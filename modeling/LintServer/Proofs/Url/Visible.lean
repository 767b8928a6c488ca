import LintServer.Url.Parser
import Mathlib.Data.List.TakeWhile

/-! # URLs are written in visible characters

Whatever text a URL was read from, the URL itself is written in ASCII without controls
(`isVisible_of_parse`).  Most parts are so because they are encoded.  What is copied instead
has to be followed through the reading: a segment of a path while it moves from one end of a
`PathState` to the other, and the label of a domain, whose characters beyond ASCII go
through another spelling and back.
-/
namespace LintServer

namespace Text

theorem mem_of_mem_cut {α : Type} {isSeparator : α → Bool} {l piece : List α} {a : α}
    (hpiece : piece ∈ cut isSeparator l) (ha : a ∈ piece) : a ∈ l := by
  induction l generalizing piece with
  | nil =>
    rw [cut, List.mem_singleton] at hpiece
    exact hpiece ▸ ha
  | cons b r ih =>
    rw [cut] at hpiece
    split at hpiece
    · rcases List.mem_cons.mp hpiece with rfl | hmem
      · cases ha
      · exact List.mem_cons_of_mem b (ih hmem ha)
    · rename_i first more _ hcut
      rcases List.mem_cons.mp hpiece with rfl | hmem
      · rcases List.mem_cons.mp ha with rfl | ha
        · exact List.mem_cons_self
        · exact List.mem_cons_of_mem b (ih (hcut ▸ List.mem_cons_self) ha)
      · exact List.mem_cons_of_mem b (ih (hcut ▸ List.mem_cons_of_mem first hmem) ha)
    · rw [List.mem_singleton] at hpiece
      subst hpiece
      rw [List.mem_singleton] at ha
      exact ha ▸ List.mem_cons_self

end Text

namespace Url

/-! ## Visible characters -/

/-- **Characters that stand for themselves everywhere**: ASCII without controls. -/
def Visible (cs : List Char) : Prop := ∀ c ∈ cs, isControl c = false

instance : DecidablePred Visible := fun cs =>
  decidable_of_iff (cs.all fun c => !isControl c) (by simp [Visible])

theorem isControl_eq_false_iff {c : Char} :
    isControl c = false ↔ 32 ≤ c.toNat ∧ c.toNat < 127 := by
  simp [isControl]

@[simp] theorem visible_nil : Visible [] := by simp [Visible]

theorem visible_empty : Visible "".toList := visible_nil

@[simp] theorem visible_cons {c : Char} {cs : List Char} :
    Visible (c :: cs) ↔ isControl c = false ∧ Visible cs :=
  List.forall_mem_cons

@[simp] theorem visible_append {cs ds : List Char} :
    Visible (cs ++ ds) ↔ Visible cs ∧ Visible ds :=
  List.forall_mem_append

@[simp] theorem visible_reverse {cs : List Char} : Visible cs.reverse ↔ Visible cs := by
  simp [Visible]

theorem Visible.subset {cs ds : List Char} (h : Visible ds) (hsub : cs ⊆ ds) : Visible cs :=
  fun c hc => h c (hsub hc)

theorem visible_flatMap {α : Type} {l : List α} {f : α → List Char}
    (h : ∀ a ∈ l, Visible (f a)) : Visible (l.flatMap f) := by
  intro c hc
  obtain ⟨a, ha, hc⟩ := List.mem_flatMap.mp hc
  exact h a ha c hc

theorem visible_intercalate {mark : List Char} (hmark : Visible mark) {parts : List (List Char)}
    (h : ∀ part ∈ parts, Visible part) : Visible (mark.intercalate parts) := by
  induction parts with
  | nil => simp [List.intercalate]
  | cons part more ih =>
    obtain ⟨hpart, hmore⟩ := List.forall_mem_cons.mp h
    cases more with
    | nil => simpa [List.intercalate] using hpart
    | cons next more =>
      have hrest := ih hmore
      simp only [List.intercalate, List.intersperse, List.flatten_cons, visible_append] at hrest ⊢
      exact ⟨hpart, hmark, hrest⟩

theorem visible_toDigits {base : Nat} (hone : 1 < base) (hbase : base ≤ 16) (n : Nat) :
    Visible (Nat.toDigits base n) := by
  have hdigit : ∀ d < 16, isControl (Nat.digitChar d) = false := by decide
  induction n using Nat.strongRecOn with
  | ind n ih =>
    by_cases hlt : n < base
    · rw [Nat.toDigits_of_lt_base hlt]
      simpa using hdigit n (by omega)
    · have hlast := Nat.mod_lt n (Nat.zero_lt_of_lt hone)
      have hfront := ih (n / base) (Nat.div_lt_self (by omega) hone)
      rw [Nat.toDigits_of_base_le hone (by omega)]
      simpa using ⟨hfront, hdigit _ (by omega)⟩

theorem visible_toString (n : Nat) : Visible (toString n).toList := by
  rw [Nat.toString_eq_repr, Nat.toList_repr]
  exact visible_toDigits (by decide) (by decide) n

/-- Encoding at least the controls leaves none of them. -/
theorem visible_encode {set : Char → Bool} (hset : ∀ c, isControl c = true → set c = true)
    (cs : List Char) : Visible (encode set cs) := by
  have hhex : ∀ d < 16, isControl (upperHex d) = false := by decide
  refine visible_flatMap fun c _ => ?_
  split
  · refine visible_flatMap fun b _ => ?_
    have hb := b.toNat_lt
    have hpercent : isControl '%' = false := by decide
    simp [percentByte, hpercent, hhex (b.toNat / 16) (by omega), hhex (b.toNat % 16) (by omega)]
  · rename_i hc
    have hplain : isControl c = false := by
      cases hcontrol : isControl c with
      | false => rfl
      | true => exact absurd (hset c hcontrol) hc
    simpa using hplain

/-! ## Paths -/

namespace PathState

/-- Both ends of what is read of a path are visible. -/
structure Clear (state : PathState) : Prop where
  before : Visible state.before
  segment : Visible state.segment

theorem Clear.text {state : PathState} (h : state.Clear) : Visible state.text := by
  simpa [PathState.text] using ⟨h.before, h.segment⟩

end PathState

theorem visible_withSlash {text : List Char} (h : Visible text) : Visible (withSlash text) := by
  unfold withSlash
  split
  · exact h
  · exact visible_cons.mpr ⟨by decide, h⟩

theorem dropSlash_suffix (text : List Char) : dropSlash text <:+ text := by
  unfold dropSlash
  repeat' split
  · exact List.suffix_cons _ _
  · exact List.suffix_rfl
  · exact List.suffix_rfl

theorem above_suffix (scheme : Scheme) (text : List Char) : above scheme text <:+ text := by
  unfold above
  dsimp only
  split
  · exact dropSlash_suffix text
  · exact (List.dropWhile_suffix _).trans (dropSlash_suffix text)

namespace PathState

variable {scheme : Scheme} {state : PathState}

theorem Clear.add (h : state.Clear) (stretch : List Char) : (state.add scheme stretch).Clear := by
  have hwritten : Visible (encode inPath stretch) :=
    visible_encode (by simp +contextual [inPath, inFragment]) stretch
  have hplain : Clear { state with segment := state.segment ++ encode inPath stretch } :=
    ⟨h.before, visible_append.mpr ⟨h.segment, hwritten⟩⟩
  unfold PathState.add
  dsimp only
  split
  · rename_i c letter hbefore hsegment
    split
    · have hc := h.before
      have hletter := h.segment
      rw [hbefore] at hc
      rw [hsegment] at hletter
      have hslash : isControl '/' = false := by decide
      simp only [visible_cons, visible_nil, and_true] at hc hletter
      constructor <;> simp [hc, hletter, hslash, hwritten]
    · exact hplain
  · exact hplain

theorem Clear.close (h : state.Clear) (slash : Bool) : (state.close scheme slash).Clear := by
  unfold PathState.close
  dsimp only
  split
  · have habove : Visible (above scheme state.before) :=
      h.before.subset (above_suffix scheme state.before).subset
    refine ⟨?_, visible_nil⟩
    cases slash with
    | false => exact habove
    | true => exact visible_withSlash habove
  · split
    · exact ⟨visible_withSlash h.before, visible_nil⟩
    · have hfirst : Visible (state.segment.take 1 ++ [':']) :=
        visible_append.mpr ⟨h.segment.subset (List.take_subset _ _), by decide⟩
      have htext {segment : List Char} (hsegment : Visible segment) :
          Visible (if slash then '/' :: (segment.reverse ++ state.before)
            else segment.reverse ++ state.before) := by
        have hall : Visible (segment.reverse ++ state.before) :=
          visible_append.mpr ⟨visible_reverse.mpr hsegment, h.before⟩
        split
        · exact visible_cons.mpr ⟨by decide, hall⟩
        · exact hall
      refine ⟨htext ?_, visible_nil⟩
      split
      · exact hfirst
      · exact h.segment

theorem Clear.read (h : state.Clear) (slash : Bool) (segment : List Char) :
    (state.read scheme slash segment).Clear := by
  refine Clear.close ?_ slash
  exact List.foldlRecOn _ _ h fun state hstate stretch _ => hstate.add stretch

end PathState

/-- **A path that is read behind a visible text is visible**, whatever it is read from. -/
theorem clear_readPath (scheme : Scheme) {before : List Char} (h : Visible before)
    (cs : List Char) : (readPath scheme before cs).Clear := by
  have hstart : PathState.Clear ⟨before.reverse, [], false⟩ := ⟨visible_reverse.mpr h, visible_nil⟩
  have hfront := List.foldlRecOn (motive := PathState.Clear) (Text.cut scheme.isSlash cs).dropLast
    (PathState.read scheme true) hstart fun state hstate segment _ => hstate.read true segment
  unfold readPath
  dsimp only
  cases (Text.cut scheme.isSlash cs).getLast? with
  | none => exact hfront
  | some last => exact hfront.read false last

/-- A route whose text, or each of whose segments, is visible. -/
def Route.IsVisible : Route → Prop
  | .free text => Visible text.toList
  | .rooted segments => ∀ segment ∈ segments, Visible segment.toList

theorem isVisible_ofText {text : List Char} (h : Visible text) : (Route.ofText text).IsVisible := by
  cases text with
  | nil => simp [Route.ofText, Route.IsVisible]
  | cons c text =>
    intro segment hsegment
    obtain ⟨piece, hpiece, rfl⟩ := List.mem_map.mp hsegment
    rw [String.toList_ofList]
    exact (visible_cons.mp h).2.subset fun d hd => Text.mem_of_mem_cut hpiece hd

theorem Route.IsVisible.text {route : Route} (h : route.IsVisible) : Visible route.text.toList := by
  cases route with
  | free text => exact h
  | rooted segments =>
    rw [Route.text, String.toList_join, List.flatMap_map]
    refine visible_flatMap fun segment hsegment => ?_
    rw [String.toList_append, visible_append]
    exact ⟨by decide, h segment hsegment⟩

/-! ## Labels and domains -/

namespace Label

theorem threshold_le (k bias : Nat) : threshold k bias ≤ 26 := by
  unfold threshold
  split <;> try split
  all_goals omega

theorem visible_number (bias k q : Nat) : Visible (number bias k q) := by
  have hdigit : ∀ d < 36, isControl (digit d) = false := by decide
  have hle := threshold_le k bias
  rw [number]
  split
  · simpa using hdigit q (by omega)
  · have hmod := Nat.mod_lt (q - threshold k bias) (show 0 < 36 - threshold k bias by omega)
    exact visible_cons.mpr ⟨hdigit _ (by omega), visible_number _ _ _⟩
termination_by q
decreasing_by
  have := threshold_pos k bias
  exact Nat.lt_of_le_of_lt (Nat.div_le_self _ _) (by omega)

theorem visible_writePlace {basic wanted : Nat} {done : State × List Char}
    (h : Visible done.2) (c : Char) : Visible (writePlace basic wanted done c).2 := by
  unfold writePlace
  dsimp only
  repeat' split
  · exact h
  · exact visible_append.mpr ⟨h, visible_number _ _ _⟩
  · exact h

theorem visible_writeAll {label : List Char} {basic : Nat} {done : State × List Char}
    (h : Visible done.2) (wanted : Nat) : Visible (writeAll label basic done wanted).2 := by
  unfold writeAll
  dsimp only
  exact List.foldlRecOn (motive := fun done : State × List Char => Visible done.2) _ _ h
    fun _ hdone c _ => visible_writePlace hdone c

/-- The spelling of a label is visible if the label's ASCII characters are. -/
theorem visible_encode {label : List Char} (h : Visible (label.filter (·.toNat < 128))) :
    Visible (encode label) := by
  have hothers (wanted : List Nat) (basic : Nat) :
      Visible (wanted.foldl (writeAll label basic) (.initial basic, [])).2 :=
    List.foldlRecOn (motive := fun done : State × List Char => Visible done.2) _ _ visible_nil
      fun _ hdone n _ => visible_writeAll hdone n
  unfold encode
  dsimp only
  refine visible_append.mpr ⟨visible_append.mpr ⟨h, ?_⟩, hothers _ _⟩
  split <;> decide

/-- Only characters beyond ASCII are put among those known. -/
theorem known_of_place? {state : State} {known digits label : List Char} (hnext : 128 ≤ state.next)
    (h : place? state known digits = some label) {c : Char} (hc : c ∈ label)
    (hascii : c.toNat < 128) : c ∈ known := by
  fun_induction place? state known digits with
  | case1 => cases h; exact hc
  | case2 => cases h
  | case3 state known digits _ d rest hd total count next hscalar place ih =>
    have hbeyond : 128 ≤ next := Nat.le_trans hnext (Nat.le_add_right _ _)
    have hmem := ih hbeyond h
    have hnew : (Char.ofNat next).toNat = next := by
      rw [Char.ofNat, dif_pos (by simpa [isScalar, Nat.isValidChar] using hscalar)]
      rfl
    rcases List.mem_append.mp hmem with hmem | hmem
    · exact List.mem_of_mem_take hmem
    · rcases List.mem_cons.mp hmem with rfl | hmem
      · omega
      · exact List.mem_of_mem_drop hmem
  | case4 => cases h

/-- The ASCII characters of a label stand in its spelling. -/
theorem spelled_of_decode? {text label : List Char} (h : decode? text = some label) {c : Char}
    (hc : c ∈ label) (hascii : c.toNat < 128) : c ∈ text :=
  List.mem_of_mem_take (known_of_place? (Nat.le_refl 128) h hc hascii)

end Label

namespace Domain

theorem isControl_of_not_forbidden {c : Char} (hascii : c.toNat < 128) (h : isForbidden c = false) :
    isControl c = false := by
  simp only [isForbidden, Bool.or_eq_false_iff, decide_eq_false_iff_not] at h
  exact isControl_eq_false_iff.mpr (by omega)

/-- **The ASCII characters of a label that passes are visible**, also where the label is read
from another spelling. -/
theorem visible_of_label? {label read : List Char} (h : label? label = some read) :
    Visible (read.filter (·.toNat < 128)) := by
  intro c hc
  obtain ⟨hmem, hascii⟩ := List.mem_filter.mp hc
  rw [decide_eq_true_eq] at hascii
  have hallowed (hlabel : c ∈ label) (hnone : ¬ label.any isForbidden = true) :
      isControl c = false := by
    refine isControl_of_not_forbidden hascii ?_
    rw [Bool.eq_false_iff]
    exact fun hforbidden => hnone (List.any_eq_true.mpr ⟨c, hlabel, hforbidden⟩)
  unfold label? at h
  split at h
  · cases h
  · rename_i hnone
    split at h
    · unfold marked? at h
      split at h
      · have hread := Label.spelled_of_decode? (Option.eq_some_of_filter_eq_some h) hmem hascii
        exact hallowed (List.mem_of_mem_drop hread) hnone
      · cases h
    · split at h
      · cases h
        exact hallowed hmem hnone
      · cases h

theorem visible_asciiLabel {label : List Char} (h : Visible (label.filter (·.toNat < 128))) :
    Visible (asciiLabel label) := by
  unfold asciiLabel
  split
  · rename_i hall
    rwa [List.filter_eq_self.mpr (by simpa using hall)] at h
  · exact visible_append.mpr ⟨by decide, Label.visible_encode h⟩

theorem exists_of_mem_mapM {α β : Type} {f : α → Option β} {l : List α} {r : List β}
    (h : l.mapM f = some r) {b : β} (hb : b ∈ r) : ∃ a ∈ l, f a = some b := by
  induction l generalizing r with
  | nil =>
    cases h
    cases hb
  | cons a l ih =>
    simp only [List.mapM_cons, Option.bind_eq_bind, Option.bind_eq_some_iff, Option.pure_def,
      Option.some.injEq] at h
    obtain ⟨first, hfirst, more, hmore, rfl⟩ := h
    rcases List.mem_cons.mp hb with rfl | hb
    · exact ⟨a, List.mem_cons_self, hfirst⟩
    · obtain ⟨a', ha', hfa⟩ := ih hmore hb
      exact ⟨a', List.mem_cons_of_mem a ha', hfa⟩

theorem visible_of_toAscii? {domain ascii : List Char} (h : toAscii? domain = some ascii) :
    Visible ascii := by
  simp only [toAscii?, Option.bind_eq_bind, Option.bind_eq_some_iff] at h
  obtain ⟨mapped, -, labels, hlabels, h⟩ := h
  split at h
  · cases h
  · cases h
    refine visible_intercalate (by decide) fun part hpart => ?_
    obtain ⟨read, hread, rfl⟩ := List.mem_map.mp hpart
    obtain ⟨label, -, hlabel⟩ := exists_of_mem_mapM hlabels hread
    exact visible_asciiLabel (visible_of_label? hlabel)

end Domain

/-! ## Hosts -/

theorem visible_ipv4Text (n : Nat) : Visible (ipv4Text n).toList := by
  rw [ipv4Text, String.toList_intercalate]
  refine visible_intercalate (by decide) fun part hpart => ?_
  simp only [List.map_map, List.mem_map, Function.comp_apply] at hpart
  obtain ⟨byte, -, rfl⟩ := hpart
  exact visible_toString byte

theorem visible_groupsText (groups : List Nat) : Visible (groupsText groups).toList := by
  rw [groupsText, String.toList_intercalate]
  refine visible_intercalate (by decide) fun part hpart => ?_
  simp only [List.map_map, List.mem_map, Function.comp_apply, String.toList_ofList] at hpart
  obtain ⟨group, -, rfl⟩ := hpart
  exact visible_toDigits (by decide) (by decide) group

theorem visible_ipv6Text (groups : List Nat) : Visible (ipv6Text groups).toList := by
  have hopen : Visible "[".toList := by decide
  have hclose : Visible "]".toList := by decide
  have hgap : Visible "::".toList := by decide
  unfold ipv6Text
  dsimp only
  split
  all_goals
    simp only [String.toList_append, visible_append, visible_groupsText, hopen, hclose, hgap,
      and_self]

/-- What a reader gives, if it gives anything, has a property. -/
def Gives {α : Type} (P : α → Prop) (result : Except Error α) : Prop := ∀ a, result = .ok a → P a

section Gives

variable {α β : Type} {P : α → Prop} {Q : β → Prop}

theorem gives_ok {a : α} (h : P a) : Gives P (.ok a) := by
  rintro _ ⟨⟩
  exact h

theorem gives_error {e : Error} : Gives P (.error e) := by
  rintro _ ⟨⟩

theorem gives_bind {result : Except Error α} {f : α → Except Error β} (h : Gives P result)
    (hf : ∀ a, P a → Gives Q (f a)) : Gives Q (result >>= f) := by
  cases result with
  | error e => exact gives_error
  | ok a => exact hf a (h a rfl)

/-- Two ways to read one thing, with the same to follow. -/
theorem gives_bind_ite {c : Prop} [Decidable c] {result result' : Except Error α}
    {f : α → Except Error β} (h : Gives P result) (h' : Gives P result')
    (hf : ∀ a, P a → Gives Q (f a)) : Gives Q (if c then result >>= f else result' >>= f) := by
  split
  · exact gives_bind h hf
  · exact gives_bind h' hf

theorem gives_throw {e : Error} {f : α → Except Error β} :
    Gives Q (throw e >>= f) :=
  gives_error

theorem gives_elim {o : Option α} {e : Error} {f : α → Except Error β}
    (h : ∀ a, Gives Q (f a)) : Gives Q (o.elim (.error e) f) := by
  cases o with
  | none => exact gives_error
  | some a => exact h a

end Gives

theorem gives_parseIpv4 (cs : List Char) : Gives (Visible ·.toList) (parseIpv4 cs) := by
  unfold parseIpv4
  split
  · exact gives_error
  · exact gives_elim fun n => gives_ok (visible_ipv4Text n)

theorem gives_parseIpv6 (cs : List Char) : Gives (Visible ·.toList) (parseIpv6 cs) := by
  unfold parseIpv6
  split
  · exact gives_elim fun groups => gives_ok (visible_ipv6Text groups)
  · exact gives_error

theorem gives_parseHost (cs : List Char) : Gives (Visible ·.toList) (parseHost cs) := by
  unfold parseHost
  split
  · exact gives_parseIpv6 cs
  · split
    · exact gives_error
    · rename_i domain hdomain
      obtain ⟨decoded, -, hascii⟩ := Option.bind_eq_some_iff.mp hdomain
      have hvisible := Domain.visible_of_toAscii? hascii
      repeat' split
      · exact gives_error
      · exact gives_parseIpv4 domain
      · exact gives_ok (by simpa using hvisible)

theorem gives_parseFreeHost (cs : List Char) : Gives (Visible ·.toList) (parseFreeHost cs) := by
  unfold parseFreeHost
  repeat' split
  · exact gives_parseIpv6 cs
  · exact gives_error
  · exact gives_ok (by simpa using visible_encode (fun _ h => h) cs)

/-! ## URLs -/

/-- **A URL all of whose parts are written in visible characters.** -/
structure IsVisible (u : Url) : Prop where
  scheme : Visible u.scheme.toList
  userName : Visible u.userName.toList
  password : Visible u.password.toList
  host : ∀ host ∈ u.host, Visible host.toList
  route : u.route.IsVisible
  query : ∀ query ∈ u.query, Visible query.toList
  fragment : ∀ fragment ∈ u.fragment, Visible fragment.toList

theorem IsVisible.userInfoText {u : Url} (h : u.IsVisible) : Visible u.userInfoText.toList := by
  have hcolon : Visible ":".toList := by decide
  have hat : Visible "@".toList := by decide
  unfold Url.userInfoText
  dsimp only
  repeat' split
  · exact visible_empty
  all_goals
    simp only [String.toList_append, visible_append, visible_empty, h.userName, h.password, hcolon,
      hat, and_self]

theorem IsVisible.authorityText {u : Url} (h : u.IsVisible) : Visible u.authorityText.toList := by
  unfold Url.authorityText
  split
  · unfold guardText
    split <;> decide
  · rename_i host hhost
    have hport : Visible (u.port.elim "" fun n => ":" ++ toString n).toList := by
      cases u.port with
      | none => exact visible_nil
      | some n =>
        rw [Option.elim_some, String.toList_append]
        exact visible_append.mpr ⟨by decide, visible_toString n⟩
    simp only [String.toList_append, visible_append]
    exact ⟨⟨⟨by decide, h.userInfoText⟩, h.host host hhost⟩, hport⟩

/-- The text of such a URL is visible too. -/
theorem IsVisible.text {u : Url} (h : u.IsVisible) : Visible u.text.toList := by
  have hpart {mark : String} {part : Option String} (hmark : Visible mark.toList)
      (hpart : ∀ t ∈ part, Visible t.toList) : Visible (part.elim "" (mark ++ ·)).toList := by
    cases part with
    | none => exact visible_nil
    | some t => simpa using ⟨hmark, hpart t rfl⟩
  simp only [Url.text, String.toList_append, visible_append]
  exact ⟨⟨⟨⟨⟨h.scheme, by decide⟩, h.authorityText⟩, h.route.text⟩, hpart (by decide) h.query⟩,
    hpart (by decide) h.fragment⟩

theorem gives_parseAuthority (scheme : Scheme) (more : Bool) (cs : List Char) :
    Gives (fun a => Visible a.userName.toList ∧ Visible a.password.toList ∧ Visible a.host.toList)
      (parseAuthority scheme more cs) := by
  have huser (user : List Char) : Visible (String.ofList (encode inUserInfo user)).toList := by
    rw [String.toList_ofList]
    exact visible_encode (by simp +contextual [inUserInfo, inPath, inFragment]) user
  have hport (port : Option (List Char)) :
      Gives (fun _ => True) (port.elim (.ok none) (parsePort scheme)) := fun _ _ => trivial
  unfold parseAuthority
  split
  dsimp only
  split
  · exact gives_throw
  · split
    · exact gives_throw
    · refine gives_bind_ite (gives_parseHost _) (gives_parseFreeHost _) fun host hhost => ?_
      split
      · exact gives_throw
      · refine gives_bind (hport _) fun port _ => ?_
        split
        · exact gives_throw
        · exact gives_ok ⟨huser _, huser _, hhost⟩

section Name

variable {name : String} (hname : Visible name.toList)

include hname

theorem isVisible_bare {route : Route} (h : route.IsVisible) : (bare name route).IsVisible where
  scheme := hname
  userName := visible_nil
  password := visible_nil
  host := by simp [bare]
  route := h
  query := by simp [bare]
  fragment := by simp [bare]

theorem isVisible_ofFile {host : String} (hhost : Visible host.toList) {state : PathState}
    (h : state.Clear) : (ofFile name host state).IsVisible := by
  have htext : Visible ('/' :: state.text.dropWhile (· == '/')) :=
    visible_cons.mpr ⟨by decide, h.text.subset (List.dropWhile_suffix _).subset⟩
  refine { isVisible_bare hname (isVisible_ofText htext) with host := ?_ }
  rintro _ ⟨⟩
  split
  · exact visible_nil
  · exact hhost

theorem gives_parseWithAuthority (scheme : Scheme) (more : Bool) (cs : List Char) :
    Gives IsVisible (parseWithAuthority name scheme more cs) := by
  have hslash : Visible ['/'] := by decide
  unfold parseWithAuthority
  dsimp only
  refine gives_bind (gives_parseAuthority _ _ _) fun authority hauthority => gives_ok ?_
  obtain ⟨huser, hpassword, hhost⟩ := hauthority
  refine ⟨hname, huser, hpassword, ?_, isVisible_ofText ?_, by simp, by simp⟩
  · rintro _ ⟨⟩
    exact hhost
  · split
    · split
      · exact hslash
      · exact visible_nil
    · exact (clear_readPath _ hslash _).text

theorem gives_parseFileHost (cs : List Char) : Gives IsVisible (parseFileHost name cs) := by
  have hslash : Visible ['/'] := by decide
  have hlocal (cs : List Char) : Gives IsVisible (.ok (ofFile name "" (readPath .file ['/'] cs))) :=
    gives_ok (isVisible_ofFile hname visible_empty (clear_readPath _ hslash _))
  unfold parseFileHost
  dsimp only
  split
  · exact hlocal _
  · split
    · exact hlocal _
    · refine gives_bind (gives_parseHost _) fun host hhost => ?_
      split
      · exact hlocal _
      · exact gives_ok (isVisible_ofFile hname hhost (clear_readPath _ hslash _))

theorem gives_parseFile (cs : List Char) : Gives IsVisible (parseFile name cs) := by
  have hlocal {before : List Char} (hbefore : Visible before) (cs : List Char) :
      Gives IsVisible (.ok (ofFile name "" (readPath .file before cs))) :=
    gives_ok (isVisible_ofFile hname visible_empty (clear_readPath _ hbefore _))
  unfold parseFile
  dsimp only
  repeat' split
  · exact hlocal (by decide) _
  · exact gives_parseFileHost hname _
  · exact hlocal visible_nil _
  · exact hlocal visible_nil _
  · exact hlocal (by decide) _

theorem gives_parseRest (more : Bool) (cs : List Char) :
    Gives IsVisible (parseRest name more cs) := by
  unfold parseRest
  dsimp only
  split
  · exact gives_parseFile hname cs
  · exact gives_parseWithAuthority hname _ _ _
  · split
    · exact gives_parseWithAuthority hname _ _ _
    · have hpath := clear_readPath (Scheme.ofName name) (show Visible ['/'] by decide)
      exact gives_ok (isVisible_bare hname (isVisible_ofText (hpath _).text))
    · refine gives_ok (isVisible_bare hname ?_)
      rw [Route.IsVisible, String.toList_ofList]
      exact visible_encode (fun _ h => h) _

end Name

/-- The letters, digits and signs of a scheme stay visible in lower case. -/
theorem isControl_toLower {c : Char} (h : isSchemeChar c = true) :
    isControl c.toLower = false := by
  have hall : ∀ n < 128, isSchemeChar (Char.ofNat n) = true →
      isControl (Char.ofNat n).toLower = false := by decide
  have hle {d : Char} (hd : c.val ≤ d.val) (hascii : d.toNat < 128) : c.toNat < 128 :=
    Nat.lt_of_le_of_lt (UInt32.le_iff_toNat_le.mp hd) hascii
  have hascii : c.toNat < 128 := by
    delta isSchemeChar Char.isAlphanum Char.isAlpha Char.isUpper Char.isLower Char.isDigit at h
    simp only [Bool.or_eq_true, Bool.and_eq_true, decide_eq_true_eq, beq_iff_eq] at h
    rcases h with ((((⟨-, h⟩ | ⟨-, h⟩) | ⟨-, h⟩) | rfl) | rfl) | rfl
    · exact hle h (by decide)
    · exact hle h (by decide)
    · exact hle h (by decide)
    all_goals decide
  simpa using hall c.toNat hascii (by simpa using h)

theorem visible_of_scheme? {cs rest : List Char} {name : String}
    (h : scheme? cs = some (name, rest)) : Visible name.toList := by
  unfold scheme? at h
  dsimp only at h
  split at h
  · split at h
    · cases h
      intro c hc
      rw [String.toList_ofList] at hc
      obtain ⟨d, hd, rfl⟩ := List.mem_map.mp hc
      obtain ⟨hmem, hbreak⟩ := List.mem_filter.mp hd
      have hbelongs := List.mem_takeWhile_imp hmem
      simp only [Bool.not_eq_true'] at hbreak
      simp only [hbreak, Bool.or_false] at hbelongs
      exact isControl_toLower hbelongs
    · cases h
  · cases h

/-- **A URL that was read is written in visible characters.** -/
theorem isVisible_of_parse {s : String} {u : Url} (h : parse s = .ok u) : u.IsVisible := by
  have hencoded {set : Char → Bool} (hset : ∀ c, isControl c = true → set c = true)
      (part : Option (List Char)) :
      ∀ t ∈ part.map fun cs => String.ofList (encode set (unbroken cs)), Visible t.toList := by
    intro t ht
    obtain ⟨cs, -, rfl⟩ := Option.map_eq_some_iff.mp ht
    rw [String.toList_ofList]
    exact visible_encode hset (unbroken cs)
  have hgives : Gives IsVisible (parse s) := by
    unfold parse
    split
    · exact gives_error
    · rename_i name rest hscheme
      have hname := visible_of_scheme? hscheme
      refine gives_bind (gives_parseRest hname _ _) fun url hurl => gives_ok ?_
      refine { hurl with query := hencoded ?_ _, fragment := hencoded ?_ _ }
      · split <;> simp +contextual [inSpecialQuery, inQuery]
      · simp +contextual [inFragment]
  exact hgives u h

end Url

end LintServer
