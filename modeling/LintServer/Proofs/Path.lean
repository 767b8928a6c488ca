import LintServer.Path
import Mathlib.Data.List.Infix

/-! # Components of paths, and the paths above a path

A path is a string of bytes, and what it means are its components.  `marks` reads the
components one stretch between slashes after another (`marked_of_absolute`,
`marked_of_relative`), so that facts about them follow by `stretch_induction`.

`components_join` says what a joined path means.  `climbs_ancestors` says what is above a
path: one directory for each beginning of its components, from long to short, written with
just as many of the path's own bytes as it takes.
-/
namespace LintServer.Path

/-! ## Stretches -/

/-- The component of a stretch in front, with the number of bytes up to its end. -/
def mark (inFront : Bool) (done : Nat) (piece : List UInt8) : List (Component × Nat) :=
  ((component? inFront piece).map fun c => (c, done + piece.length)).toList

/-- The components of what stands behind `done` bytes, each with the number of bytes up to
its end. -/
def marks (inFront : Bool) (done : Nat) (bytes : List UInt8) : List (Component × Nat) :=
  match stretches done [] bytes with
  | [] => []
  | (s, e) :: more =>
    ((component? inFront s).map fun c => (c, e)).toList ++
      more.filterMap fun (s, e) => (component? false s).map fun c => (c, e)

theorem stretches_of_notMem {w : List UInt8} (hw : slash ∉ w) (done : Nat)
    (piece : List UInt8) : stretches done piece w = [(piece.reverse ++ w, done + w.length)] := by
  induction w generalizing done piece with
  | nil => simp [stretches]
  | cons b w ih =>
    rw [List.mem_cons, not_or] at hw
    simp [stretches, Ne.symm hw.1, ih hw.2, Nat.add_assoc, Nat.add_comm 1]

theorem stretches_append_slash {w : List UInt8} (hw : slash ∉ w) (y : List UInt8) (done : Nat)
    (piece : List UInt8) : stretches done piece (w ++ slash :: y) =
      (piece.reverse ++ w, done + w.length) :: stretches (done + w.length + 1) [] y := by
  induction w generalizing done piece with
  | nil => simp [stretches]
  | cons b w ih =>
    rw [List.mem_cons, not_or] at hw
    simp [stretches, Ne.symm hw.1, ih hw.2, Nat.add_assoc, Nat.add_comm 1]

/-- A string of bytes is one stretch, or a stretch, a slash and more. -/
theorem stretch_induction {motive : List UInt8 → Prop}
    (last : ∀ w, slash ∉ w → motive w)
    (more : ∀ w y, slash ∉ w → motive y → motive (w ++ slash :: y)) (x : List UInt8) :
    motive x := by
  induction hn : x.length using Nat.strong_induction_on generalizing x with
  | _ n ih =>
    by_cases hx : slash ∈ x
    · obtain ⟨w, y, rfl, hw⟩ := List.eq_append_cons_of_mem hx
      refine more w y hw (ih y.length ?_ y rfl)
      simp only [List.length_append, List.length_cons] at hn
      omega
    · exact last x hx

theorem marks_false (done : Nat) (bytes : List UInt8) : marks false done bytes =
    (stretches done [] bytes).filterMap fun (s, e) => (component? false s).map fun c => (c, e) := by
  rw [marks]
  cases stretches done [] bytes with
  | nil => rfl
  | cons first more =>
    obtain ⟨s, e⟩ := first
    cases hs : component? false s <;> simp [hs]

theorem marks_of_notMem {w : List UInt8} (hw : slash ∉ w) (inFront : Bool) (done : Nat) :
    marks inFront done w = mark inFront done w := by
  simp [marks, mark, stretches_of_notMem hw]

theorem marks_append_slash {w : List UInt8} (hw : slash ∉ w) (y : List UInt8) (inFront : Bool)
    (done : Nat) : marks inFront done (w ++ slash :: y) =
      mark inFront done w ++ marks false (done + w.length + 1) y := by
  rw [marks, stretches_append_slash hw, marks_false]
  rfl

theorem marks_nil (inFront : Bool) (done : Nat) : marks inFront done [] = [] := by
  rw [marks_of_notMem List.not_mem_nil]
  rfl

theorem marked_of_absolute (y : List UInt8) :
    (⟨slash :: y⟩ : Path).marked = (.root, 1) :: marks false 1 y := by
  rw [marks_false]
  simp [marked, isAbsolute, stretches]

theorem marked_of_relative {p : Path} (h : p.isAbsolute = false) :
    p.marked = marks true 0 p.bytes := by
  simp only [marked, h, marks]
  cases hs : stretches 0 [] p.bytes with
  | nil => rfl
  | cons first more =>
    obtain ⟨s, e⟩ := first
    simp

/-! ## Beginnings -/

theorem component?_eq_some (inFront : Bool) {w : List UInt8} (hlen : 1 < w.length) :
    ∃ c, component? inFront w = some c := by
  have hnil : w ≠ [] := by rintro rfl; simp at hlen
  have hdot : w ≠ [46] := by rintro rfl; simp at hlen
  simp only [component?, if_neg hnil, if_neg hdot]
  split <;> exact ⟨_, rfl⟩

/-- Different stretches are different components. -/
theorem component?_injective {inFront : Bool} {w w' : List UInt8} {c : Component}
    (h : component? inFront w = some c) (h' : component? inFront w' = some c) : w = w' := by
  unfold component? at h h'
  grind

theorem mark_cases (inFront : Bool) (done : Nat) (w : List UInt8) :
    (component? inFront w = none ∧ mark inFront done w = []) ∨
      ∃ c, component? inFront w = some c ∧ mark inFront done w = [(c, done + w.length)] := by
  cases h : component? inFront w with
  | none => exact .inl ⟨rfl, by simp [mark, h]⟩
  | some c => exact .inr ⟨c, rfl, by simp [mark, h]⟩

/-- Up to the end of one of its components, a string has the components up to there. -/
theorem exists_marks_eq {inFront : Bool} {done e : Nat} {x : List UInt8} {c : Component}
    {m n : List (Component × Nat)} (h : marks inFront done x = m ++ (c, e) :: n) :
    ∃ y z, x = y ++ z ∧ e = done + y.length ∧ marks inFront done y = m ++ [(c, e)] := by
  induction x using stretch_induction generalizing inFront done m with
  | last w hw =>
    rw [marks_of_notMem hw] at h
    obtain ⟨-, hmark⟩ | ⟨c', hc', hmark⟩ := mark_cases inFront done w
    · simp [hmark] at h
    · rw [hmark] at h
      obtain ⟨rfl, hmine⟩ : m = [] ∧ [(c', done + w.length)] = (c, e) :: n := by
        cases m <;> simp_all
      cases hmine
      exact ⟨w, [], by simp, rfl, by rw [marks_of_notMem hw, hmark]; rfl⟩
  | more w y hw ih =>
    rw [marks_append_slash hw] at h
    -- the component is that of the stretch in front, or one of those behind it
    have behind {k : List (Component × Nat)}
        (hk : marks false (done + w.length + 1) y = k ++ (c, e) :: n) :
        ∃ y' z, w ++ slash :: y = y' ++ z ∧ e = done + y'.length ∧
          marks inFront done y' = mark inFront done w ++ (k ++ [(c, e)]) := by
      obtain ⟨y', z, rfl, rfl, hmarks⟩ := ih hk
      refine ⟨w ++ slash :: y', z, by simp, ?_, ?_⟩
      · simp only [List.length_append, List.length_cons]
        omega
      · rw [marks_append_slash hw, hmarks]
    obtain ⟨-, hmark⟩ | ⟨c', hc', hmark⟩ := mark_cases inFront done w
    · rw [hmark, List.nil_append] at h
      simpa only [hmark, List.nil_append] using behind h
    · rw [hmark] at h
      cases m with
      | nil =>
        cases h
        exact ⟨w, slash :: y, rfl, rfl, by rw [marks_of_notMem hw, hmark]; rfl⟩
      | cons first m =>
        obtain ⟨rfl, hrest⟩ := List.cons.inj h
        simpa only [hmark, List.cons_append, List.nil_append] using behind hrest

/-- The marks of a beginning: some of the marks, and at most one more, of a component that was
cut short. -/
def Begins (ms ns : List (Component × Nat)) : Prop :=
  ms <+: ns ∨ ∃ k c c' e e', c' ≠ c ∧ k ++ [(c, e)] <+: ns ∧ ms = k ++ [(c', e')]

theorem Begins.append_left {ms ns : List (Component × Nat)} (h : Begins ms ns)
    (front : List (Component × Nat)) : Begins (front ++ ms) (front ++ ns) := by
  obtain h | ⟨k, c, c', e, e', hne, hk, rfl⟩ := h
  · exact .inl ((List.prefix_append_right_inj front).mpr h)
  · refine .inr ⟨front ++ k, c, c', e, e', hne, ?_, by rw [List.append_assoc]⟩
    rw [List.append_assoc]
    exact (List.prefix_append_right_inj front).mpr hk

theorem Begins.append_right {ms ns : List (Component × Nat)} (h : Begins ms ns)
    (back : List (Component × Nat)) : Begins ms (ns ++ back) := by
  obtain h | ⟨k, c, c', e, e', hne, hk, rfl⟩ := h
  · exact .inl (h.trans (List.prefix_append ns back))
  · exact .inr ⟨k, c, c', e, e', hne, hk.trans (List.prefix_append ns back), rfl⟩

/-- A beginning of a stretch is the whole stretch, no component, or another component. -/
theorem begins_of_isPrefix_stretch {w y : List UInt8} (hw : slash ∉ w) (h : y <+: w)
    (inFront : Bool) (done : Nat) : Begins (marks inFront done y) (mark inFront done w) := by
  have hy : slash ∉ y := fun hmem => hw (h.subset hmem)
  rw [marks_of_notMem hy]
  obtain ⟨-, hmark⟩ | ⟨c', hc', hmark⟩ := mark_cases inFront done y
  · rw [hmark]
    exact .inl List.nil_prefix
  · by_cases heq : y = w
    · rw [heq]
      exact .inl (List.prefix_refl _)
    · have hpos : 0 < y.length := List.length_pos_iff.mpr (by rintro rfl; cases hc')
      have hlt : y.length < w.length :=
        lt_of_le_of_ne h.length_le fun hlen => heq (h.eq_of_length hlen)
      obtain ⟨c, hc⟩ := component?_eq_some inFront (w := w) (by omega)
      refine .inr ⟨[], c, c', done + w.length, done + y.length, ?_, ?_, hmark⟩
      · rintro rfl
        exact heq (component?_injective hc' hc)
      · simp [mark, hc]

theorem begins_of_isPrefix {x y : List UInt8} (h : y <+: x) (inFront : Bool) (done : Nat) :
    Begins (marks inFront done y) (marks inFront done x) := by
  induction x using stretch_induction generalizing inFront done y with
  | last w hw => simpa only [marks_of_notMem hw] using begins_of_isPrefix_stretch hw h inFront done
  | more w x hw ih =>
    rw [marks_append_slash hw]
    -- the beginning ends in the first stretch, right behind it, or behind its slash
    obtain hy | ⟨y', rfl⟩ := List.prefix_or_prefix_of_prefix h (List.prefix_append w (slash :: x))
    · exact (begins_of_isPrefix_stretch hw hy inFront done).append_right _
    · obtain rfl | ⟨y, rfl, hy⟩ := List.prefix_cons_iff.mp ((List.prefix_append_right_inj w).mp h)
      · rw [List.append_nil, marks_of_notMem hw]
        exact .inl (List.prefix_append _ _)
      · rw [marks_append_slash hw]
        exact (ih hy false (done + w.length + 1)).append_left _

theorem bytes_of_absolute {p : Path} (h : p.isAbsolute = true) : ∃ y, p = ⟨slash :: y⟩ := by
  obtain ⟨bytes⟩ := p
  cases bytes with
  | nil => cases h
  | cons b y =>
    obtain rfl : b = slash := by simpa [isAbsolute] using h
    exact ⟨y, rfl⟩

theorem isAbsolute_of_isPrefix {p q : Path} (h : q.bytes <+: p.bytes) (hq : q.bytes ≠ []) :
    q.isAbsolute = p.isAbsolute := by
  obtain ⟨z, hz⟩ := h
  rw [isAbsolute, isAbsolute, ← hz, List.head?_append_of_ne_nil _ hq]

/-- Up to the end of one of its components, a path has the components up to there. -/
theorem exists_marked_eq {p : Path} {m n : List (Component × Nat)} {c : Component} {e : Nat}
    (h : p.marked = m ++ (c, e) :: n) :
    ∃ q : Path, q.bytes <+: p.bytes ∧ e = q.bytes.length ∧ q.marked = m ++ [(c, e)] := by
  cases habs : p.isAbsolute with
  | true =>
    obtain ⟨y, rfl⟩ := bytes_of_absolute habs
    rw [marked_of_absolute] at h
    cases m with
    | nil =>
      cases h
      exact ⟨⟨[slash]⟩, ⟨y, rfl⟩, rfl, rfl⟩
    | cons first m =>
      obtain ⟨rfl, hrest⟩ := List.cons.inj h
      obtain ⟨y', z, rfl, rfl, hmarks⟩ := exists_marks_eq hrest
      refine ⟨⟨slash :: y'⟩, ⟨z, rfl⟩, by rw [List.length_cons, Nat.add_comm], ?_⟩
      rw [marked_of_absolute, hmarks, List.cons_append]
  | false =>
    rw [marked_of_relative habs] at h
    obtain ⟨y, z, hz, rfl, hmarks⟩ := exists_marks_eq h
    have hprefix : y <+: p.bytes := ⟨z, hz.symm⟩
    refine ⟨⟨y⟩, hprefix, by simp, ?_⟩
    have hy : y ≠ [] := by rintro rfl; simp [marks_nil] at hmarks
    rw [marked_of_relative, hmarks]
    rw [isAbsolute_of_isPrefix hprefix hy, habs]

theorem begins_marked {p q : Path} (h : q.bytes <+: p.bytes) : Begins q.marked p.marked := by
  by_cases hq : q.bytes = []
  · obtain rfl : q = ⟨[]⟩ := by rw [← hq]
    exact .inl List.nil_prefix
  have hsame := isAbsolute_of_isPrefix h hq
  cases habs : p.isAbsolute with
  | true =>
    obtain ⟨x, rfl⟩ := bytes_of_absolute habs
    obtain ⟨y, rfl⟩ := bytes_of_absolute (hsame.trans habs)
    rw [marked_of_absolute, marked_of_absolute]
    exact (begins_of_isPrefix ((List.prefix_cons_inj slash).mp h) false 1).append_left [_]
  | false =>
    rw [marked_of_relative habs, marked_of_relative (hsame.trans habs)]
    exact begins_of_isPrefix h true 0

theorem le_length_of_mem_marked {p : Path} {c : Component} {e : Nat} (h : (c, e) ∈ p.marked) :
    e ≤ p.bytes.length := by
  obtain ⟨m, n, hmarked⟩ := List.append_of_mem h
  obtain ⟨q, hq, rfl, -⟩ := exists_marked_eq hmarked
  exact hq.length_le

/-- A path up to the end of a component cannot be written shorter. -/
theorem length_le_of_components_eq {p q b : Path} {m : List (Component × Nat)} {c : Component}
    (hq : q.marked = m ++ [(c, q.bytes.length)]) (hm : q.marked <+: p.marked)
    (hb : b.bytes <+: p.bytes) (h : b.components = q.components) :
    q.bytes.length ≤ b.bytes.length := by
  have hlen : b.marked.length = q.marked.length := by
    simpa only [components, List.length_map] using congrArg List.length h
  obtain hmarked | ⟨k, d, c', e, e', hne, hk, hmarked⟩ := begins_marked hb
  · have hsame : b.marked = q.marked :=
      (List.prefix_of_prefix_length_le hmarked hm hlen.le).eq_of_length hlen
    exact le_length_of_mem_marked (c := c) (by rw [hsame, hq]; simp)
  · -- the last component of `b` was cut short, so it is not the one of `q`
    have hsame : k ++ [(d, e)] = q.marked := by
      have hlen' : (k ++ [(d, e)]).length = q.marked.length := by
        rw [← hlen, hmarked]
        simp
      exact (List.prefix_of_prefix_length_le hk hm hlen'.le).eq_of_length hlen'
    rw [components, components, hmarked, ← hsame] at h
    simp only [List.map_append, List.map_cons, List.map_nil, List.append_cancel_left_eq,
      List.cons.injEq, and_true] at h
    exact absurd h hne

/-! ## The paths above a path -/

/-- **A path cut off**: a beginning of its bytes, and the shortest one with its components. -/
structure CutFrom (q p : Path) : Prop where
  isPrefix : q.bytes <+: p.bytes
  shortest : ∀ b : Path, b.bytes <+: p.bytes → b.components = q.components → q.bytes <+: b.bytes

theorem CutFrom.trans {r q p : Path} (hr : r.CutFrom q) (hq : q.bytes <+: p.bytes) :
    r.CutFrom p where
  isPrefix := hr.isPrefix.trans hq
  shortest b hb hcomponents := by
    obtain h | h := List.prefix_or_prefix_of_prefix (hr.isPrefix.trans hq) hb
    · exact h
    · exact hr.shortest b (h.trans hr.isPrefix) hcomponents

/-- **All directories a path leads through, nearest first**: the path itself and, cut off from
it, one directory for each beginning of its components.  Only a relative path leads through
the directory without components. -/
structure Climbs (p : Path) (dirs : List Path) : Prop where
  start : dirs.head? = some p
  components : dirs.map Path.components =
    (p.components.inits.filter fun cs => p.isAbsolute → cs ≠ []).reverse
  cut : ∀ dir ∈ dirs.tail, dir.CutFrom p

theorem component?_ne_root {inFront : Bool} {w : List UInt8} :
    component? inFront w ≠ some .root := by
  unfold component?
  split_ifs <;> simp

theorem root_notMem_marks {inFront : Bool} {done e : Nat} {x : List UInt8} :
    (Component.root, e) ∉ marks inFront done x := by
  induction x using stretch_induction generalizing inFront done with
  | last w hw => simp [marks_of_notMem hw, mark, component?_ne_root]
  | more w y hw ih => simp [marks_append_slash hw, mark, component?_ne_root, ih]

/-- Nothing is above the root and above the path that is empty. -/
theorem components_of_parent?_eq_none {p : Path} (h : p.parent? = none) :
    p.components = if p.isAbsolute then [.root] else [] := by
  cases habs : p.isAbsolute with
  | true =>
    obtain ⟨y, rfl⟩ := bytes_of_absolute habs
    cases hmarks : marks false 1 y with
    | nil => simp [components, marked_of_absolute, hmarks]
    | cons first more =>
      have hlen : (marks false 1 y).reverse ≠ [] := by simp [hmarks]
      obtain ⟨last, k, hk⟩ := List.exists_cons_of_ne_nil hlen
      cases k with
      | nil => simp [parent?, marked_of_absolute, hk] at h
      | cons next k => simp [parent?, marked_of_absolute, hk] at h
  | false =>
    unfold parent? at h
    split at h
    next hmarked => simp [components, List.reverse_eq_nil_iff.mp hmarked]
    next c e hmarked =>
      split at h
      next hroot =>
        have hmem : (Component.root, e) ∈ p.marked := by
          rw [← List.mem_reverse, hmarked, hroot]
          exact List.mem_singleton_self _
        rw [marked_of_relative habs] at hmem
        exact absurd hmem root_notMem_marks
      next => cases h
    next => cases h

/-- The parent of a path is the path cut off before its last component. -/
theorem parent?_eq_some {p q : Path} (h : p.parent? = some q) :
    q.CutFrom p ∧ q.isAbsolute = p.isAbsolute ∧ ∃ c, p.components = q.components ++ [c] := by
  unfold parent? at h
  split at h
  next => cases h
  next c e hmarked =>
    split at h
    next => cases h
    next hroot =>
      cases h
      have hmarked' : p.marked = [(c, e)] := by simpa using congrArg List.reverse hmarked
      refine ⟨⟨List.nil_prefix, fun b _ _ => List.nil_prefix⟩, ?_, c, ?_⟩
      · cases habs : p.isAbsolute with
        | false => rfl
        | true =>
          obtain ⟨y, rfl⟩ := bytes_of_absolute habs
          rw [marked_of_absolute] at hmarked'
          exact absurd (congrArg Prod.fst (List.cons.inj hmarked').1.symm) hroot
      · rw [components, hmarked']
        rfl
  next last c stop rest hmarked =>
    cases h
    have hmarked' : p.marked = rest.reverse ++ (c, stop) :: [last] := by
      simpa using congrArg List.reverse hmarked
    obtain ⟨q, hq, rfl, hmarks⟩ := exists_marked_eq hmarked'
    rw [← List.prefix_iff_eq_take.mp hq]
    have hprefix : q.marked <+: p.marked := by
      rw [hmarks, hmarked']
      exact ⟨[last], by simp⟩
    refine ⟨⟨hq, fun b hb hcomponents => ?_⟩, isAbsolute_of_isPrefix hq ?_, last.1, ?_⟩
    · exact List.prefix_of_prefix_length_le hq hb
        (length_le_of_components_eq hmarks hprefix hb hcomponents)
    · rintro hnil
      obtain rfl : q = ⟨[]⟩ := by rw [← hnil]
      simp [marked, isAbsolute, stretches, component?] at hmarks
    · rw [components, components, hmarks, hmarked']
      simp

theorem climbs_singleton {p : Path} (h : p.parent? = none) : Climbs p [p] where
  start := rfl
  components := by
    have hcomponents := components_of_parent?_eq_none h
    cases habs : p.isAbsolute <;> simp [hcomponents, habs]
  cut := by simp

theorem climbs_cons {p q : Path} (h : p.parent? = some q) {dirs : List Path}
    (hdirs : q.Climbs dirs) : p.Climbs (p :: dirs) := by
  obtain ⟨hcut, habs, c, hc⟩ := parent?_eq_some h
  refine ⟨rfl, ?_, fun dir hdir => ?_⟩
  · rw [List.map_cons, hdirs.components, habs, hc, List.inits_append, List.filter_append,
      List.reverse_append]
    simp
  · obtain ⟨more, rfl⟩ := List.head?_eq_some_iff.mp hdirs.start
    obtain rfl | hmore := List.mem_cons.mp hdir
    · exact hcut
    · exact (hdirs.cut dir hmore).trans hcut.isPrefix

theorem climbs_upward {fuel : Nat} {p : Path} (h : p.components.length ≤ fuel) :
    p.Climbs (upward fuel p) := by
  induction fuel generalizing p with
  | zero =>
    have hmarked : p.marked = [] := by
      simpa [components] using List.length_eq_zero_iff.mp (Nat.le_zero.mp h)
    exact climbs_singleton (by simp [parent?, hmarked])
  | succ fuel ih =>
    cases hparent : p.parent? with
    | none => simpa [upward, hparent] using climbs_singleton hparent
    | some q =>
      obtain ⟨-, -, c, hc⟩ := parent?_eq_some hparent
      have hlen : q.components.length ≤ fuel := by
        rw [hc, List.length_append, List.length_singleton] at h
        omega
      simpa [upward, hparent] using climbs_cons hparent (ih hlen)

/-- **The ancestors of a path** are the directories it leads through, nearest first. -/
theorem climbs_ancestors (p : Path) : p.Climbs p.ancestors :=
  climbs_upward (by rw [components, List.length_map])

/-! ## Joined paths -/

theorem marks_append (x y : List UInt8) (inFront : Bool) (done : Nat) :
    marks inFront done (x ++ slash :: y) =
      marks inFront done x ++ marks false (done + x.length + 1) y := by
  induction x using stretch_induction generalizing inFront done with
  | last w hw => rw [marks_append_slash hw, marks_of_notMem hw]
  | more w x hw ih =>
    rw [List.append_assoc, List.cons_append, marks_append_slash hw, marks_append_slash hw, ih]
    simp [Nat.add_assoc, Nat.add_comm 1]

theorem marked_append {x : List UInt8} (hx : x ≠ []) (y : List UInt8) :
    (⟨x ++ slash :: y⟩ : Path).marked = (⟨x⟩ : Path).marked ++ marks false (x.length + 1) y := by
  have hsame : (⟨x⟩ : Path).isAbsolute = (⟨x ++ slash :: y⟩ : Path).isAbsolute :=
    isAbsolute_of_isPrefix (List.prefix_append _ _) hx
  cases habs : (⟨x⟩ : Path).isAbsolute with
  | true =>
    obtain ⟨z, hz⟩ := bytes_of_absolute habs
    cases hz
    rw [List.cons_append, marked_of_absolute, marked_of_absolute, marks_append]
    simp [Nat.add_comm 1]
  | false =>
    rw [marked_of_relative habs, marked_of_relative (hsame ▸ habs), marks_append, Nat.zero_add]

/-- The components behind a slash: a dot in front no longer counts. -/
theorem map_fst_marks (x : List UInt8) (inFront : Bool) (done done' : Nat) :
    (marks false done x).map Prod.fst =
      ((marks inFront done' x).map Prod.fst).filter (· ≠ .current) := by
  have hstretch (w : List UInt8) (done done' : Nat) (inFront : Bool) :
      (mark false done w).map Prod.fst =
        ((mark inFront done' w).map Prod.fst).filter (· ≠ .current) := by
    unfold mark component?
    split_ifs <;> simp_all
  induction x using stretch_induction generalizing inFront done done' with
  | last w hw => rw [marks_of_notMem hw, marks_of_notMem hw, hstretch]
  | more w x hw ih =>
    rw [marks_append_slash hw, marks_append_slash hw, List.map_append, List.map_append,
      List.filter_append, hstretch w done done' inFront,
      ih false (done + w.length + 1) (done' + w.length + 1)]

/-- **What a joined path means**: the components of both, but for a dot in front of the
second. -/
theorem components_join {p q : Path} (hp : p.bytes ≠ []) (hq : q.isAbsolute = false) :
    (p.join q).components = p.components ++ q.components.filter (· ≠ .current) := by
  have hbehind (done : Nat) :
      (marks false done q.bytes).map Prod.fst = q.components.filter (· ≠ .current) := by
    rw [components, marked_of_relative hq]
    exact map_fst_marks q.bytes true done 0
  simp only [join, hq, Bool.false_eq_true, if_false, hp, false_or]
  split
  next hlast =>
    obtain ⟨x, hx⟩ := List.getLast?_eq_some_iff.mp hlast
    obtain rfl : p = ⟨x ++ [slash]⟩ := by rw [← hx]
    by_cases hnil : x = []
    · subst hnil
      rw [components, components]
      simp [marked_of_absolute, hbehind, marks_nil]
    · rw [components, components, List.append_assoc, List.singleton_append,
        marked_append hnil, marked_append hnil]
      simp [hbehind, marks_nil]
  next =>
    rw [components, marked_append hp, List.map_append, hbehind]
    rfl

/-- **A path inside a directory**, as a relative path `q` tells; inside the empty path it is
`q` itself. -/
structure Holds (dir q p : Path) : Prop where
  components : dir.bytes ≠ [] → p.components = dir.components ++ q.components.filter (· ≠ .current)
  empty : dir.bytes = [] → p = q

theorem holds_child {name : String} (h : (ofString name).isAbsolute = false) (dir : Path) :
    dir.Holds (ofString name) (dir.child name) where
  components hdir := components_join hdir h
  empty hdir := by simp [child, join, hdir]

end LintServer.Path
