import LintServer.Proofs.Server.Amid
import LintServer.Proofs.Server.Readiness
import LintServer.Rpc.Outgoing
import Mathlib.Tactic.IntervalCases

/-! # Handshakes one after the other

When no handshake is opened before the one in front of it has been answered, the
server's phase, its workspace, the calls of the loader and the answers agree
(`Run.Agrees`).  `handshakes_agree` says what an editor can rely on then: the loader
is called once for each handshake up to the first one whose load succeeds, every handshake
is answered and its answer tells of the phase it leaves, the workspace is the one that the
parameters of the handshake that called the loader last tell of
(`Handshake.Params.TellsOf`), and a server that is ready keeps its engine and its workspace.
-/
namespace LintServer

/-! ## What parameters tell of -/

namespace Handshake.Params

/-- The URL parameters give for the root: one of its own, or else the first folder's. -/
inductive GivesUrl (params : Params) : Url → Prop
  | own {url : Url} (h : params.rootUrl = some url) : GivesUrl params url
  | folder {url : Url} {more : List Url} (hown : params.rootUrl = none)
    (h : params.folders = url :: more) : GivesUrl params url

/-- **Parameters tell of a workspace.**  Its root is the file that the URL given for it names;
where no URL is given, or it names no file, the root is the path given beside it, if any.
The editor can be asked to watch files just if the parameters say so. -/
structure TellsOf (params : Params) (workspace : Workspace) : Prop where
  named : ∀ {url path}, params.GivesUrl url → url.filePath? = some path →
    workspace.root = some path
  unnamed : (∀ url, params.GivesUrl url → url.filePath? = none) →
    workspace.root = params.rootPath
  dynamicWatch : workspace.dynamicWatch = true ↔ params.dynamicRegistration = some true

variable {params : Params}

theorem givesUrl_iff {url : Url} :
    params.GivesUrl url ↔ params.rootUrl.or params.folders.head? = some url := by
  constructor
  · rintro (h | ⟨hown, h⟩)
    · simp [h]
    · simp [hown, h]
  · intro h
    rcases Option.or_eq_some_iff.mp h with hown | ⟨hown, hfolder⟩
    · exact .own hown
    · obtain ⟨more, hfolders⟩ := List.head?_eq_some_iff.mp hfolder
      exact .folder hown hfolders

/-- **What a handshake records is what its parameters tell of.** -/
theorem tellsOf_ofHandshake (params : Params) : params.TellsOf (.ofHandshake params) where
  named hgives hpath := by simp [Workspace.ofHandshake, givesUrl_iff.mp hgives, hpath]
  unnamed hnone := by
    have hno : (params.rootUrl.or params.folders.head?).bind Url.filePath? = none :=
      Option.bind_eq_none_iff.mpr fun url hurl => hnone url (givesUrl_iff.mpr hurl)
    simp [Workspace.ofHandshake, hno]
  dynamicWatch := by
    unfold Workspace.ofHandshake
    cases params.dynamicRegistration <;> simp

/-- Parameters tell of one workspace. -/
theorem TellsOf.unique {workspace workspace' : Workspace} (h : params.TellsOf workspace)
    (h' : params.TellsOf workspace') : workspace = workspace' := by
  have hroot : workspace.root = workspace'.root := by
    by_cases hnone : ∀ url, params.GivesUrl url → url.filePath? = none
    · rw [h.unnamed hnone, h'.unnamed hnone]
    · obtain ⟨url, hurl⟩ := Classical.not_forall.mp hnone
      obtain ⟨hgives, hpath⟩ := Classical.not_imp.mp hurl
      obtain ⟨path, hpath⟩ := Option.ne_none_iff_exists'.mp hpath
      rw [h.named hgives hpath, h'.named hgives hpath]
  have hwatch : workspace.dynamicWatch = workspace'.dynamicWatch :=
    Bool.eq_iff_iff.mpr (h.dynamicWatch.trans h'.dynamicWatch.symm)
  cases workspace
  cases workspace'
  cases hroot
  cases hwatch
  rfl

end Handshake.Params

/-- Whether a task is a handshake. -/
def Task.isHandshake : Task → Bool
  | .handshake _ => true
  | _ => false

/-! ## To the answer -/

namespace Handshake

/-- What a handshake opened with `params` writes until it is answered: nothing, or one call of
the loader, for the root that the parameters tell of. -/
def Answers (n : Nat) (params : Params) (written : List Event) (outcome : Outcome) : Prop :=
  (∃ result, outcome = .handshake result) ∧ (written = [] ∨
    ∃ workspace, params.TellsOf workspace ∧ written = [.loading n workspace.root])

/-- A handshake can be seen through to its answer. -/
theorem answers_led (n : Nat) (params : Params) :
    Task.Led n (fun _ _ => True) (fun _ _ => True) (Answers n params)
      fun left task written => ∃ h, task = .handshake h ∧ Advances n params left h written where
  unreached := by
    rintro left task written ⟨h, rfl, -⟩ path
    rfl
  can := by
    rintro left task written ⟨h, rfl, -⟩ config shared -
    obtain ⟨answer, turn, hturn⟩ := Task.handshake_can h config shared n
    exact ⟨0, answer, turn, fun _ _ => trivial, hturn⟩
  step := by
    rintro left task written ⟨h, rfl, hadvances⟩ config shared place answer turn - - hturn
    obtain ⟨next, hgoes, hnext, -⟩ := Task.handshake_goes hturn
    rw [hnext]
    rcases hadvances.step hgoes with ⟨h', left', rfl, -, hless, hadvances'⟩ | ⟨rfl, -, hwritten⟩ |
      ⟨load, -, rfl, hwritten⟩
    · exact ⟨left', hless, h', rfl, hadvances'⟩
    · exact ⟨⟨_, rfl⟩, .inl hwritten⟩
    · exact ⟨⟨_, rfl⟩, .inr ⟨_, params.tellsOf_ofHandshake, hwritten⟩⟩

end Handshake

/-- The call of the loader an event tells of: whose it is, and for which root. -/
def Event.loading? : Event → Option (Nat × Option Path)
  | .loading n root => some (n, root)
  | _ => none

namespace Server

/-- The calls of the loader so far, the latest first. -/
def loadings (s : Server) : List (Nat × Option Path) := s.journal.filterMap Event.loading?

/-- The numbers of the handshakes that have called the loader. -/
def loaders (s : Server) : List Nat := s.loadings.map Prod.fst

namespace Run
variable {config : Config} (e : Run (.initial config))

/-- Each handshake is answered before the next one is opened. -/
structure Serial : Prop where
  apart : ∀ {t n params h}, e.move t = some (.arrive (.handshake params)) →
    ¬ (e.state t).Shakes n h
  answered : ∀ {t n h}, e.move t = some (.abandon n) → ¬ (e.state t).Shakes n h

/-- In tick `r` a handshake is opened with some parameters, and `n` is its number. -/
def Opens (r n : Nat) (params : Handshake.Params) : Prop :=
  e.move r = some (.arrive (.handshake params)) ∧ (e.state r).fresh = n

/-- In tick `u` the load of handshake `n` ends, with an engine of some name. -/
def Succeeds (u n : Nat) (name : String) : Prop :=
  (∃ place, e.move u = some (.advance n place (.loaded (.ok name)))) ∧
    ∃ workspace, (e.state u).Shakes n (.loading workspace)

/-- A load has succeeded before tick `t`. -/
def LoadedBefore (t : Nat) : Prop := ∃ u < t, ∃ n name, e.Succeeds u n name

/-- `workspace` is the one that the parameters of the last handshake to call the loader tell
of, and the loader was called for its root; or it is the one of a new server, if there has
been no call. -/
def LastLoaded (t : Nat) (workspace : Workspace) : Prop :=
  (e.state t).loadings = [] ∧ workspace = Shared.initial.workspace ∨
    ∃ r n params rest, (e.state t).loadings = (n, workspace.root) :: rest ∧ r < t ∧
      e.Opens r n params ∧ params.TellsOf workspace

/-- `engine` was loaded for `workspace`: the parameters of the handshake of its number tell
of the workspace, and the handshake handed its root to the loader and got the engine. -/
def LoadedFor (t : Nat) (engine : Engine) (workspace : Workspace) : Prop :=
  ∃ r u params, r < t ∧ u < t ∧ e.Opens r engine.load params ∧ params.TellsOf workspace ∧
    e.Succeeds u engine.load engine.name ∧ (engine.load, workspace.root) ∈ (e.state t).loadings

/-- Where a handshake stands that was opened in tick `r` with `params`: whether it has
called the loader, whether a load has succeeded, and what it has recorded. -/
def Stands (t r n : Nat) (params : Handshake.Params) : Handshake → Prop
  | .checking p => p = params ∧ n ∉ (e.state t).loaders ∧ (e.LoadedBefore t → e.LoadedBefore r)
  | .recording p => p = params ∧ n ∉ (e.state t).loaders ∧ ¬ e.LoadedBefore t
  | .calling w => params.TellsOf w ∧ n ∉ (e.state t).loaders ∧ ¬ e.LoadedBefore t ∧
      (e.state t).shared.workspace = w
  | .loading w => params.TellsOf w ∧ (n, w.root) ∈ (e.state t).loadings ∧ ¬ e.LoadedBefore t ∧
      (e.state t).shared.workspace = w
  | .concluding (.ok engine) => engine.load = n ∧ ¬ e.LoadedBefore r ∧
      e.LoadedFor t engine (e.state t).shared.workspace
  | .concluding (.error _) => n ∈ (e.state t).loaders ∧ ¬ e.LoadedBefore t

/-- **The handshakes, the phase, the workspace and the calls of the loader agree.** -/
structure Agrees (t : Nat) : Prop where
  single : ∀ {n k h h'}, (e.state t).Shakes n h → (e.state t).Shakes k h' → n = k ∧ h = h'
  stands : ∀ {n h}, (e.state t).Shakes n h →
    ∃ r params, r < t ∧ e.Opens r n params ∧ e.Stands t r n params h
  begun : ∀ {n h}, (e.state t).Shakes n h → h.HasBegun → (e.state t).shared.phase = .initializing
  once : (e.state t).loaders.Nodup
  given : ∀ n ∈ (e.state t).loaders, n < (e.state t).fresh
  recorded : (∀ n w, ¬ (e.state t).Shakes n (.calling w)) →
    e.LastLoaded t (e.state t).shared.workspace
  ready : ∀ {engine}, (e.state t).shared.phase = .ready engine →
    e.LoadedFor t engine (e.state t).shared.workspace
  loaded : e.LoadedBefore t → (e.state t).shared.phase.isReady = true ∨
    ∃ n engine, (e.state t).Shakes n (.concluding (.ok engine))

variable {e}

/-! ## Numbers and ticks -/

theorem Opens.fresh_lt {r n : Nat} {params : Handshake.Params} (h : e.Opens r n params) :
    n < (e.state (r + 1)).fresh := by
  obtain ⟨hmove, hfresh⟩ := h
  rw [step_arrive (e.moved r _ hmove), ← hfresh]
  exact Nat.lt_succ_self _

/-- A number stands for one handshake. -/
theorem Opens.unique {r r' n : Nat} {params params' : Handshake.Params}
    (h : e.Opens r n params) (h' : e.Opens r' n params') : r = r' ∧ params = params' := by
  have hr : r = r' := by
    rcases Nat.lt_trichotomy r r' with hlt | heq | hgt
    · have hfresh := Nat.lt_of_lt_of_le h.fresh_lt (e.fresh_mono (Nat.succ_le_of_lt hlt))
      exact absurd h'.2 (Nat.ne_of_gt hfresh)
    · exact heq
    · have hfresh := Nat.lt_of_lt_of_le h'.fresh_lt (e.fresh_mono (Nat.succ_le_of_lt hgt))
      exact absurd h.2 (Nat.ne_of_gt hfresh)
  subst hr
  cases h.1.symm.trans h'.1
  exact ⟨rfl, rfl⟩

theorem Opens.shakes {r n : Nat} {params : Handshake.Params} (h : e.Opens r n params) :
    (e.state (r + 1)).Shakes n (.checking params) := by
  obtain ⟨hmove, rfl⟩ := h
  rw [Shakes, step_arrive (e.moved r _ hmove)]
  exact List.mem_append_right _ (List.mem_singleton.mpr rfl)

/-- **A handshake is answered**, unless it is given up or passed over for ever. -/
theorem Opens.completes {r n : Nat} {params : Handshake.Params} (h : e.Opens r n params)
    (hamid : e.Amid (r + 1) n (fun _ _ => True) fun _ _ => True) :
    e.Completes (r + 1) n (Handshake.Answers n params) :=
  hamid.completes (Handshake.answers_led n params) ((e.numbered (r + 1)).task?_eq h.shakes)
    ⟨_, rfl, .checking⟩

theorem LoadedBefore.mono {t u : Nat} (h : e.LoadedBefore t) (htu : t ≤ u) : e.LoadedBefore u := by
  obtain ⟨w, hw, hsucceeds⟩ := h
  exact ⟨w, Nat.lt_of_lt_of_le hw htu, hsucceeds⟩

theorem loadedBefore_succ {t : Nat} :
    e.LoadedBefore (t + 1) ↔ e.LoadedBefore t ∨ ∃ n name, e.Succeeds t n name := by
  constructor
  · rintro ⟨u, hu, hsucceeds⟩
    rcases Nat.lt_succ_iff_lt_or_eq.mp hu with hlt | rfl
    · exact Or.inl ⟨u, hlt, hsucceeds⟩
    · exact Or.inr hsucceeds
  · rintro (h | hsucceeds)
    · exact h.mono (Nat.le_succ t)
    · exact ⟨t, Nat.lt_succ_self t, hsucceeds⟩

theorem loadings_succ (t : Nat) : (e.state (t + 1)).loadings =
    (e.written t).filterMap Event.loading? ++ (e.state t).loadings := by
  unfold loadings
  rw [e.journal_succ, List.filterMap_append]

theorem BystanderTick.loadings {t : Nat} (h : e.BystanderTick t) :
    (e.state (t + 1)).loadings = (e.state t).loadings := by
  have hnone : (e.written t).filterMap Event.loading? = [] := by
    refine List.filterMap_eq_nil_iff.mpr fun event hmem => ?_
    have hother := h.written event hmem
    cases event with
    | loading => exact absurd trivial hother
    | _ => rfl
  rw [loadings_succ, hnone, List.nil_append]

theorem BystanderTick.loadedBefore {t : Nat} (h : e.BystanderTick t) :
    e.LoadedBefore (t + 1) ↔ e.LoadedBefore t := by
  rw [loadedBefore_succ, or_iff_left]
  rintro ⟨n, name, ⟨place, hmove⟩, workspace, hloading⟩
  exact h.still hmove ((e.numbered t).task?_eq hloading)

theorem HandshakeTick.loadings {t n : Nat} {answer : Answer} {h : Handshake}
    {next : Handshake.Next} {events : List Event}
    (htick : e.HandshakeTick t n answer h next events) :
    (e.state (t + 1)).loadings =
      events.reverse.filterMap Event.loading? ++ (e.state t).loadings := by
  rw [loadings_succ, htick.written, entries]
  cases next <;> rfl

theorem HandshakeTick.succeeds {t n k : Nat} {name : String} {answer : Answer} {h : Handshake}
    {next : Handshake.Next} {events : List Event} (htick : e.HandshakeTick t n answer h next events)
    (hsucceeds : e.Succeeds t k name) :
    k = n ∧ answer = .loaded (.ok name) ∧ ∃ workspace, h = .loading workspace := by
  obtain ⟨⟨place, hmove⟩, workspace, hloading⟩ := hsucceeds
  obtain ⟨place', hmove'⟩ := htick.moved
  cases hmove.symm.trans hmove'
  cases (e.numbered t).unique hloading htick.running
  exact ⟨rfl, rfl, workspace, rfl⟩

theorem HandshakeTick.loadedBefore {t n : Nat} {answer : Answer} {h : Handshake}
    {next : Handshake.Next} {events : List Event} (htick : e.HandshakeTick t n answer h next events)
    (hother : ∀ workspace name, h = .loading workspace → answer ≠ .loaded (.ok name)) :
    e.LoadedBefore (t + 1) ↔ e.LoadedBefore t := by
  rw [loadedBefore_succ, or_iff_left]
  rintro ⟨k, name, hsucceeds⟩
  obtain ⟨_, hanswer, workspace, hloading⟩ := htick.succeeds hsucceeds
  exact hother workspace name hloading hanswer

theorem LoadedFor.succ {t : Nat} {engine : Engine} {workspace : Workspace}
    (h : e.LoadedFor t engine workspace) : e.LoadedFor (t + 1) engine workspace := by
  obtain ⟨r, u, params, hr, hu, hopens, htells, hsucceeds, hmem⟩ := h
  refine ⟨r, u, params, Nat.lt_succ_of_lt hr, Nat.lt_succ_of_lt hu, hopens, htells, hsucceeds, ?_⟩
  rw [loadings_succ]
  exact List.mem_append_right _ hmem

theorem LastLoaded.succ {t : Nat} {workspace : Workspace} (h : e.LastLoaded t workspace)
    (hsame : (e.state (t + 1)).loadings = (e.state t).loadings) :
    e.LastLoaded (t + 1) workspace := by
  unfold LastLoaded
  rw [hsame]
  rcases h with h | ⟨r, n, params, rest, hlist, hr, hopens⟩
  · exact Or.inl h
  · exact Or.inr ⟨r, n, params, rest, hlist, Nat.lt_succ_of_lt hr, hopens⟩

/-! ## One tick -/

/-- A handshake that is not touched stands where it stood. -/
theorem Stands.succ {t r n : Nat} {params : Handshake.Params} {h : Handshake}
    (hstands : e.Stands t r n params h)
    (hloadings : (e.state (t + 1)).loadings = (e.state t).loadings)
    (hloaded : e.LoadedBefore (t + 1) ↔ e.LoadedBefore t)
    (hworkspace : (e.state (t + 1)).shared.workspace = (e.state t).shared.workspace) :
    e.Stands (t + 1) r n params h := by
  unfold Stands loaders at hstands ⊢
  rw [hloadings, hloaded, hworkspace]
  cases h with
  | concluding result =>
    cases result with
    | ok engine => exact ⟨hstands.1, hstands.2.1, hstands.2.2.succ⟩
    | error error => exact hstands
  | _ => exact hstands

/-- A tick in which no handshake makes a step keeps the agreement: a handshake that is
opened is the only one. -/
theorem BystanderTick.agrees {t : Nat} (h : e.BystanderTick t) (hserial : e.Serial)
    (ha : e.Agrees t) : e.Agrees (t + 1) := by
  have hloaders : (e.state (t + 1)).loaders = (e.state t).loaders := by
    unfold loaders
    rw [h.loadings]
  have hstays {n : Nat} {s : Handshake} (hs : (e.state t).Shakes n s) :
      (e.state (t + 1)).Shakes n s := by
    rcases h.stays n s hs with hstays | habandon
    · exact hstays
    · exact absurd hs (hserial.answered habandon)
  refine ⟨?_, ?_, ?_, hloaders ▸ ha.once, ?_, ?_, ?_, ?_⟩
  · intro n k s s' hs hs'
    rcases h.shakes n s hs with hold | ⟨hn, p, hsp, hmove⟩ <;>
      rcases h.shakes k s' hs' with hold' | ⟨hk, p', hsp', hmove'⟩
    · exact ha.single hold hold'
    · exact absurd hold (hserial.apart hmove')
    · exact absurd hold' (hserial.apart hmove)
    · cases hmove.symm.trans hmove'
      exact ⟨hn.trans hk.symm, hsp.trans hsp'.symm⟩
  · intro n s hs
    rcases h.shakes n s hs with hold | ⟨hn, p, hsp, hmove⟩
    · obtain ⟨r, params, hr, hopens, hstands⟩ := ha.stands hold
      exact ⟨r, params, Nat.lt_succ_of_lt hr, hopens,
        hstands.succ h.loadings h.loadedBefore h.workspace⟩
    · subst hsp
      refine ⟨t, p, Nat.lt_succ_self t, ⟨hmove, hn.symm⟩, rfl, ?_, h.loadedBefore.mp⟩
      rw [hloaders, hn]
      exact fun hmem => Nat.lt_irrefl _ (ha.given _ hmem)
  · intro n s hs hbegun
    rw [h.phase]
    rcases h.shakes n s hs with hold | ⟨_, p, rfl, _⟩
    · exact ha.begun hold hbegun
    · exact absurd hbegun id
  · rw [hloaders]
    exact fun n hn => Nat.lt_of_lt_of_le (ha.given n hn) (e.fresh_succ t)
  · intro hno
    rw [h.workspace]
    exact (ha.recorded fun n w hs => hno n w (hstays hs)).succ h.loadings
  · intro engine hready
    rw [h.phase] at hready
    rw [h.workspace]
    exact (ha.ready hready).succ
  · intro hloaded
    rw [h.phase]
    rcases ha.loaded (h.loadedBefore.mp hloaded) with hready | ⟨n, engine, hs⟩
    · exact Or.inl hready
    · exact Or.inr ⟨n, engine, hstays hs⟩

/-- What has to be seen after a step of the only handshake: where it stands now, and
that the workspace and the phase agree with the calls of the loader. -/
theorem HandshakeTick.agrees_of {t n r : Nat} {answer : Answer} {h : Handshake}
    {next : Handshake.Next} {events : List Event} {params : Handshake.Params}
    (htick : e.HandshakeTick t n answer h next events) (ha : e.Agrees t)
    (hr : r < t) (hopens : e.Opens r n params)
    (hstands : ∀ s, next = .goOn s → e.Stands (t + 1) r n params s)
    (hbegun : ∀ s, next = .goOn s → (e.state (t + 1)).shared.phase = .initializing)
    (honce : (e.state (t + 1)).loaders = (e.state t).loaders ∨
      n ∉ (e.state t).loaders ∧ (e.state (t + 1)).loaders = n :: (e.state t).loaders)
    (hrecorded : (∀ w, next ≠ .goOn (.calling w)) →
      e.LastLoaded (t + 1) (e.state (t + 1)).shared.workspace)
    (hready : ∀ engine, (e.state (t + 1)).shared.phase = .ready engine →
      e.LoadedFor (t + 1) engine (e.state (t + 1)).shared.workspace)
    (hloaded : e.LoadedBefore (t + 1) → (e.state (t + 1)).shared.phase.isReady = true ∨
      ∃ engine, next = .goOn (.concluding (.ok engine))) : e.Agrees (t + 1) := by
  have hrunning : (e.state t).Shakes n h := mem_of_task? htick.running
  have halone {k : Nat} {s : Handshake} (hs : (e.state (t + 1)).Shakes k s) :
      k = n ∧ next = .goOn s := by
    rcases htick.shakes.mp hs with ⟨hold, hne⟩ | hnew
    · exact absurd (ha.single hold hrunning).1 hne
    · exact hnew
  have hstays {s : Handshake} (hnext : next = .goOn s) : (e.state (t + 1)).Shakes n s :=
    htick.shakes.mpr (Or.inr ⟨rfl, hnext⟩)
  have hgiven : n < (e.state t).fresh := (e.numbered t).given _ hrunning
  refine ⟨?_, ?_, ?_, ?_, ?_, ?_, fun hphase => hready _ hphase, ?_⟩
  · intro k k' s s' hs hs'
    obtain ⟨rfl, hnext⟩ := halone hs
    obtain ⟨rfl, hnext'⟩ := halone hs'
    cases hnext.symm.trans hnext'
    exact ⟨rfl, rfl⟩
  · intro k s hs
    obtain ⟨rfl, hnext⟩ := halone hs
    exact ⟨r, params, Nat.lt_succ_of_lt hr, hopens, hstands s hnext⟩
  · intro k s hs _
    exact hbegun s (halone hs).2
  · rcases honce with hsame | ⟨hnew, hmore⟩
    · rw [hsame]; exact ha.once
    · rw [hmore]; exact List.nodup_cons.mpr ⟨hnew, ha.once⟩
  · intro k hk
    refine Nat.lt_of_lt_of_le ?_ (e.fresh_succ t)
    rcases honce with hsame | ⟨hnew, hmore⟩
    · exact ha.given k (hsame ▸ hk)
    · rcases List.mem_cons.mp (hmore ▸ hk) with rfl | hold
      · exact hgiven
      · exact ha.given k hold
  · intro hno
    exact hrecorded fun w hnext => hno n w (hstays hnext)
  · intro hbefore
    rcases hloaded hbefore with hphase | ⟨engine, hnext⟩
    · exact Or.inl hphase
    · exact Or.inr ⟨n, engine, hstays hnext⟩

/-- **A step of a handshake keeps the agreement**, one case for each of its stages. -/
theorem HandshakeTick.agrees {t n : Nat} {answer : Answer} {h : Handshake}
    {next : Handshake.Next} {events : List Event} (htick : e.HandshakeTick t n answer h next events)
    (ha : e.Agrees t) : e.Agrees (t + 1) := by
  have hrunning : (e.state t).Shakes n h := mem_of_task? htick.running
  obtain ⟨r, params, hr, hopens, hstands⟩ := ha.stands hrunning
  have hrecorded (hne : ∀ w, h ≠ .calling w) : e.LastLoaded t (e.state t).shared.workspace :=
    ha.recorded fun k w hs => hne w (ha.single hs hrunning).2.symm
  have hloadings := htick.loadings
  have hbuild := htick.agrees_of ha hr hopens
  have hgoes := htick.goes
  generalize hshared : (e.state (t + 1)).shared = shared' at hgoes hbuild
  cases hgoes with
  | kept p hphase =>
    refine hbuild (by simp) (by simp) (Or.inl (congrArg (List.map Prod.fst) hloadings))
      (fun _ => (hrecorded (by simp)).succ hloadings) (fun engine hready => (ha.ready hready).succ)
      (fun _ => Or.inl hphase)
  | begun p hphase =>
    obtain ⟨rfl, hnew, _⟩ := hstands
    have hbefore := htick.loadedBefore (by simp)
    have hnone : ¬ e.LoadedBefore t := by
      intro hloaded
      rcases ha.loaded hloaded with hready | ⟨k, engine, hs⟩
      · rw [hready] at hphase; cases hphase
      · cases (ha.single hs hrunning).2
    refine hbuild ?_ (fun _ _ => rfl) (Or.inl (congrArg (List.map Prod.fst) hloadings))
      (fun _ => (hrecorded (by simp)).succ hloadings) (by simp)
      (fun hloaded => absurd (hbefore.mp hloaded) hnone)
    rintro s hs
    cases hs
    refine ⟨rfl, ?_, mt hbefore.mp hnone⟩
    unfold loaders
    rw [hloadings]
    exact hnew
  | recorded p =>
    obtain ⟨rfl, hnew, hnone⟩ := hstands
    have hbefore := htick.loadedBefore (by simp)
    have hphase := ha.begun hrunning trivial
    refine hbuild ?_ (fun _ _ => hphase) (Or.inl (congrArg (List.map Prod.fst) hloadings))
      (fun hno => absurd rfl (hno _)) ?_ (fun hloaded => absurd (hbefore.mp hloaded) hnone)
    · rintro s hs
      cases hs
      refine ⟨p.tellsOf_ofHandshake, ?_, mt hbefore.mp hnone, by rw [hshared]⟩
      unfold loaders
      rw [hloadings]
      exact hnew
    · intro engine hready
      cases hphase.symm.trans hready
  | called w =>
    obtain ⟨htells, hnew, hnone, hworkspace⟩ := hstands
    have hbefore := htick.loadedBefore (by simp)
    have hphase := ha.begun hrunning trivial
    have hcons : (e.state (t + 1)).loadings = (n, w.root) :: (e.state t).loadings := hloadings
    refine hbuild ?_ (fun _ _ => hphase) (Or.inr ⟨hnew, congrArg (List.map Prod.fst) hcons⟩)
      ?_ ?_ (fun hloaded => absurd (hbefore.mp hloaded) hnone)
    · rintro s hs
      cases hs
      refine ⟨htells, ?_, mt hbefore.mp hnone, by rw [hshared]; exact hworkspace⟩
      rw [hcons]
      exact List.mem_cons_self
    · intro _
      rw [hworkspace]
      exact Or.inr ⟨r, n, params, _, hcons, Nat.lt_succ_of_lt hr, hopens, htells⟩
    · intro engine hready
      cases hphase.symm.trans hready
  | loaded w result hanswer =>
    obtain ⟨htells, hcalled, hnone, hworkspace⟩ := hstands
    have hphase := ha.begun hrunning trivial
    have hnone' : ¬ e.LoadedBefore r := fun hloaded => hnone (hloaded.mono (Nat.le_of_lt hr))
    refine hbuild ?_ (fun _ _ => hphase) (Or.inl (congrArg (List.map Prod.fst) hloadings))
      (fun _ => (hrecorded (by simp)).succ hloadings) ?_ ?_
    · rintro s hs
      cases hs
      cases result with
      | error error =>
        have hbefore := htick.loadedBefore (by simp [hanswer])
        refine ⟨?_, mt hbefore.mp hnone⟩
        unfold loaders
        rw [hloadings]
        exact List.mem_map_of_mem hcalled
      | ok name =>
        obtain ⟨place, hmove⟩ := htick.moved
        have hsucceeds : e.Succeeds t n name := ⟨⟨place, hanswer ▸ hmove⟩, w, hrunning⟩
        refine ⟨rfl, hnone', ?_⟩
        rw [hshared, hworkspace]
        refine ⟨r, t, params, Nat.lt_succ_of_lt hr, Nat.lt_succ_self t, hopens, htells,
          hsucceeds, ?_⟩
        rw [hloadings]
        exact hcalled
    · intro engine hready
      cases hphase.symm.trans hready
    · intro hloaded
      cases result with
      | error error =>
        have hbefore := htick.loadedBefore (by simp [hanswer])
        exact absurd (hbefore.mp hloaded) hnone
      | ok name => exact Or.inr ⟨⟨name, n⟩, rfl⟩
  | concluded result =>
    have hbefore := htick.loadedBefore (by simp)
    refine hbuild (by simp) (by simp) (Or.inl (congrArg (List.map Prod.fst) hloadings))
      (fun _ => (hrecorded (by simp)).succ hloadings) ?_ ?_
    · intro engine hready
      cases result with
      | error error => cases hready
      | ok loaded =>
        obtain ⟨_, _, hfor⟩ := hstands
        cases hready
        exact hfor.succ
    · intro hloaded
      cases result with
      | error error => exact absurd (hbefore.mp hloaded) hstands.2
      | ok loaded => exact Or.inl rfl

theorem Serial.agrees (hserial : e.Serial) (t : Nat) : e.Agrees t := by
  induction t with
  | zero =>
    have hnone {n : Nat} {h : Handshake} : ¬ (e.state 0).Shakes n h := by
      unfold Shakes
      rw [e.initial_state]
      exact List.not_mem_nil
    have hempty : (e.state 0).loadings = [] := by rw [e.initial_state]; rfl
    refine ⟨fun hs => absurd hs hnone, fun hs => absurd hs hnone, fun hs => absurd hs hnone,
      ?_, ?_, ?_, ?_, ?_⟩
    · simp [loaders, hempty]
    · simp [loaders, hempty]
    · exact fun _ => Or.inl ⟨hempty, by rw [e.initial_state]; rfl⟩
    · intro engine hready
      rw [e.initial_state] at hready
      cases hready
    · rintro ⟨u, hu, _⟩
      exact absurd hu (Nat.not_lt_zero u)
  | succ t ih =>
    rcases tick_cases t with hquiet | ⟨n, answer, h, next, events, htick⟩
    · exact hquiet.agrees hserial ih
    · exact htick.agrees ih

/-! ## What an editor sees -/

theorem answered_tick {u n : Nat} {result : Except LoadError Unit}
    (hended : .ended n (.handshake result) ∈ e.written u) :
    ∃ answer h events, e.HandshakeTick u n answer h (.answer result) events := by
  rcases tick_cases u with hquiet | ⟨k, answer, h, next, events, htick⟩
  · exact absurd trivial (hquiet.written _ hended)
  · have hmem := hended
    rw [htick.written] at hmem
    rcases mem_entries_cases hmem with hevent | ⟨outcome, hnext, heq⟩
    · have hgoes := htick.goes
      generalize (e.state (u + 1)).shared = shared' at hgoes
      cases hgoes <;> simp at hevent
    · cases heq
      cases next with
      | goOn h' => cases hnext
      | answer other => cases hnext; exact ⟨answer, h, events, htick⟩

theorem loading_tick {u n : Nat} {root : Option Path} (hloading : .loading n root ∈ e.written u) :
    ∃ answer workspace events, workspace.root = root ∧
      e.HandshakeTick u n answer (.calling workspace) (.goOn (.loading workspace)) events := by
  rcases tick_cases u with hquiet | ⟨k, answer, h, next, events, htick⟩
  · exact absurd trivial (hquiet.written _ hloading)
  · have hmem := hloading
    rw [htick.written] at hmem
    rcases mem_entries_cases hmem with hevent | ⟨outcome, _, heq⟩
    · have hgoes := htick.goes
      generalize (e.state (u + 1)).shared = shared' at hgoes
      cases hgoes with
      | called w =>
        cases List.mem_singleton.mp hevent
        exact ⟨answer, w, _, rfl, htick⟩
      | _ => cases hevent
    · cases heq

end Run

end Server

/-- An answer tells of a phase: it is no error just when the server is ready, and an
error, with its number and whether to try again, just when the server has failed so. -/
def Phase.AnsweredBy (phase : Phase) (result : Except LoadError Unit) : Prop :=
  (result = .ok () ↔ phase.isReady = true) ∧
    ∀ retry, (∃ error, result = .error error ∧ (Rpc.handshakeError error).code = 99 ∧
      (Rpc.handshakeError error).data.bind (Json.member? "retry") = some (.bool retry)) ↔
        phase = .failed retry

theorem Phase.answeredBy_ofLoad (result : Except LoadError Engine) :
    (Phase.ofLoad result).AnsweredBy (result.map fun _ => ()) := by
  cases result with
  | ok engine => simp [AnsweredBy, ofLoad, Except.map, isReady, engine?]
  | error error =>
    refine ⟨by simp [ofLoad, Except.map, isReady, engine?], ?_⟩
    intro retry
    constructor
    · rintro ⟨_, heq, _, hdata⟩
      cases heq
      cases hdata
      rfl
    · intro hphase
      cases hphase
      exact ⟨error, rfl, rfl, rfl⟩

theorem Phase.answeredBy_of_isReady {phase : Phase} (h : phase.isReady = true) :
    phase.AnsweredBy (.ok ()) := by
  cases phase with
  | ready engine => simp [AnsweredBy, isReady, engine?]
  | _ => cases h

namespace Server

namespace Run
variable {config : Config} {e : Run (.initial config)}

theorem Agrees.loadedBefore_of_isReady {t : Nat} (ha : e.Agrees t)
    (h : (e.state t).shared.phase.isReady = true) : e.LoadedBefore t := by
  cases hphase : (e.state t).shared.phase with
  | ready engine =>
    obtain ⟨_, u, _, _, hu, _, _, hsucceeds, _⟩ := ha.ready hphase
    exact ⟨u, hu, _, _, hsucceeds⟩
  | _ => rw [hphase] at h; cases h

/-- A handshake that is answered has called the loader, unless a load had succeeded
before it was opened, and its answer tells of the phase it leaves. -/
theorem Serial.answer {r u n : Nat} {params : Handshake.Params} {result : Except LoadError Unit}
    (hserial : e.Serial) (hopens : e.Opens r n params)
    (hended : .ended n (.handshake result) ∈ e.written u) :
    (n ∈ (e.state (u + 1)).loaders ↔ ¬ e.LoadedBefore r) ∧
      (e.state (u + 1)).shared.phase.AnsweredBy result := by
  obtain ⟨answer, h, events, htick⟩ := answered_tick hended
  have ha := hserial.agrees u
  have hrunning : (e.state u).Shakes n h := mem_of_task? htick.running
  obtain ⟨r', params', hr, hopens', hstands⟩ := ha.stands hrunning
  obtain ⟨rfl, rfl⟩ := hopens.unique hopens'
  have hloadings := htick.loadings
  have hgoes := htick.goes
  generalize (e.state (u + 1)).shared = shared' at hgoes ⊢
  unfold loaders
  cases hgoes with
  | kept p hphase =>
    refine ⟨?_, Phase.answeredBy_of_isReady hphase⟩
    obtain ⟨_, hnew, hbefore⟩ := hstands
    rw [hloadings]
    exact iff_of_false hnew (not_not_intro (hbefore (ha.loadedBefore_of_isReady hphase)))
  | concluded load =>
    refine ⟨?_, Phase.answeredBy_ofLoad load⟩
    rw [hloadings]
    cases load with
    | ok engine =>
      obtain ⟨rfl, hnone, _, _, _, _, _, _, _, _, hmem⟩ := hstands
      exact iff_of_true (List.mem_map_of_mem hmem) hnone
    | error error =>
      obtain ⟨hmem, hnone⟩ := hstands
      exact iff_of_true hmem
        fun hloaded => hnone (hloaded.mono (Nat.le_of_lt hr))

/-- The loader is called before any load has succeeded, for the workspace the server
has recorded, which is the one the handshake's parameters tell of. -/
theorem Serial.loading {u n : Nat} {root : Option Path} (hserial : e.Serial)
    (hloading : .loading n root ∈ e.written u) :
    ¬ e.LoadedBefore u ∧ (e.state u).shared.workspace.root = root ∧
      ∃ r params, r < u ∧ e.Opens r n params ∧ params.TellsOf (e.state u).shared.workspace := by
  obtain ⟨answer, w, events, hroot, htick⟩ := loading_tick hloading
  obtain ⟨r, params, hr, hopens, htells, _, hnone, hworkspace⟩ :=
    (hserial.agrees u).stands (mem_of_task? htick.running)
  rw [hworkspace]
  exact ⟨hnone, hroot, r, params, hr, hopens, htells⟩

/-- A server that is ready keeps its engine, and the workspace it was loaded for. -/
theorem Serial.ready {t : Nat} {engine : Engine} (hserial : e.Serial)
    (hready : (e.state t).shared.phase = .ready engine) :
    e.LoadedFor t engine (e.state t).shared.workspace ∧ ∀ v ≥ t,
      (e.state v).shared.phase = .ready engine ∧
        (e.state v).shared.workspace = (e.state t).shared.workspace := by
  have ha := hserial.agrees t
  refine ⟨ha.ready hready, ?_⟩
  intro v htv
  -- no handshake is under way: it would have set the phase
  have hphase : (e.state v).shared.phase = .ready engine := by
    refine (ready_mono hready htv ?_).1
    rintro w n _ _ ⟨h, hshakes, hbegun⟩
    cases hready.symm.trans (ha.begun hshakes hbegun)
  refine ⟨hphase, ?_⟩
  -- both workspaces are the one of the handshake that loaded the engine
  obtain ⟨_, _, _, _, _, hopens, htells, _⟩ := ha.ready hready
  obtain ⟨_, _, _, _, _, hopens', htells', _⟩ := (hserial.agrees v).ready hphase
  obtain ⟨_, rfl⟩ := hopens.unique hopens'
  exact htells'.unique htells

/-- **Handshakes over a whole run.**  When each handshake is answered before the next one
is opened, whatever else runs meanwhile and however the loads end:

* no handshake calls the loader twice, and each call is made before any load has
  succeeded, for the root of the workspace that is recorded, which is the one that the
  parameters of its handshake tell of;
* a handshake that is neither given up nor passed over for ever is answered; by then it has
  called the loader, unless a load had succeeded before it was opened, and its answer tells
  of the phase it leaves;
* the workspace is the one that the parameters of the last handshake to call the loader
  tell of, or, from the step that records it on, of the handshake whose call is to come;
* a server that is ready has the engine that was loaded for its workspace, and both
  stay. -/
theorem handshakes_agree {config : Config} (e : Run (.initial config)) (hserial : e.Serial) :
    (∀ t, (e.state t).loaders.Nodup) ∧
    (∀ u n root, .loading n root ∈ e.written u →
      ¬ e.LoadedBefore u ∧ (e.state u).shared.workspace.root = root ∧
        ∃ r params, r < u ∧ e.Opens r n params ∧
          params.TellsOf (e.state u).shared.workspace) ∧
    (∀ r n params, e.Opens r n params →
      (e.Amid (r + 1) n (fun _ _ => True) (fun _ _ => True) →
        e.Completes (r + 1) n (Handshake.Answers n params)) ∧
      ∀ u result, .ended n (.handshake result) ∈ e.written u →
        (n ∈ (e.state (u + 1)).loaders ↔ ¬ e.LoadedBefore r) ∧
          (e.state (u + 1)).shared.phase.AnsweredBy result) ∧
    (∀ t, (∀ n workspace, (e.state t).Shakes n (.calling workspace) →
        (e.state t).shared.workspace = workspace ∧
          ∃ r params, r < t ∧ e.Opens r n params ∧ params.TellsOf workspace) ∧
      ((∀ n workspace, ¬ (e.state t).Shakes n (.calling workspace)) →
        e.LastLoaded t (e.state t).shared.workspace)) ∧
    ∀ t engine, (e.state t).shared.phase = .ready engine →
      e.LoadedFor t engine (e.state t).shared.workspace ∧ ∀ v ≥ t,
        (e.state v).shared.phase = .ready engine ∧
          (e.state v).shared.workspace = (e.state t).shared.workspace := by
  refine ⟨fun t => (hserial.agrees t).once, fun u n root => hserial.loading,
    fun r n params hopens => ⟨hopens.completes, fun u result => hserial.answer hopens⟩, ?_, fun t engine => hserial.ready⟩
  intro t
  refine ⟨?_, (hserial.agrees t).recorded⟩
  intro n w hcalling
  obtain ⟨r, params, hr, hopens, htells, _, _, hworkspace⟩ := (hserial.agrees t).stands hcalling
  exact ⟨hworkspace, r, params, hr, hopens, htells⟩

end Run

/-! ### A handshake that fails, one that succeeds, and one more

The loads end in ticks 4 and 10, and the third handshake finds the server ready. -/

/-- A move does not make handshakes overlap, and gives none up. -/
def inTurn (s : Server) : Move → Bool
  | .arrive (.handshake _) => s.tasks.all fun e => !e.2.isHandshake
  | .abandon n => s.tasks.all fun e => e.1 != n || !e.2.isHandshake
  | _ => true

/-- Whether handshakes come one after the other can be seen along the moves of a run. -/
theorem Run.serial_ofMoves {config : Config} {moves : List Move}
    {h : ((Server.initial config).run moves).isSome}
    (hturn : (Server.initial config).passes inTurn moves = true) :
    (ofMoves (.initial config) moves h).Serial where
  apart hmove hshakes := by
    have hnone := List.all_eq_true.mp (check_ofMoves hturn hmove) _ hshakes
    cases hnone
  answered hmove hshakes := by
    have hnone := List.all_eq_true.mp (check_ofMoves hturn hmove) _ hshakes
    simp [Task.isHandshake] at hnone

namespace Sample

/-- The parameters of the second handshake: the first folder counts before the path. -/
def folders : Handshake.Params :=
  ⟨none, [⟨"file", "", "", some "", none, .rooted ["w"], none, none⟩], some ⟨[47, 118]⟩, some true⟩

/-- The workspace they tell of. -/
def home : Workspace := ⟨some ⟨[47, 119]⟩, true⟩

/-- The run. -/
def retried : Run (.initial .default) :=
  .ofMoves (.initial .default) [.arrive (.handshake bare), .advance 0 0 .proceed,
    .advance 0 0 .proceed, .advance 0 0 .proceed,
    .advance 0 0 (.loaded (.error (.notFound "standard"))), .advance 0 0 .proceed,
    .arrive (.handshake folders), .advance 1 0 .proceed, .advance 1 0 .proceed,
    .advance 1 0 .proceed, .advance 1 0 (.loaded (.ok "standard")), .advance 1 0 .proceed,
    .arrive (.handshake bare), .advance 2 0 .proceed] rfl

theorem retried_serial : retried.Serial := Run.serial_ofMoves rfl

/-- The second handshake is neither given up nor passed over: it has ended by tick 12. -/
theorem retried_amid : retried.Amid 7 1 (fun _ _ => True) fun _ _ => True := by
  have hgone : (retried.state 12).task? 1 = none := rfl
  refine .of_ended (by decide) hgone fun u task hlow hhigh _ => ⟨trivial, ?_, ?_⟩
  · interval_cases u <;> nofun
  · intro place answer _ v _
    trivial

end Sample

namespace Run

/-- The first handshake fails, the second is answered, the third does not call the loader, and
the server keeps the engine of the second and the workspace its parameters tell of. -/
theorem handshakes_agree_retried : Sample.retried.Serial ∧
    (Sample.retried.state 6).shared.phase = .failed true ∧
    Sample.retried.Completes 7 1 (Handshake.Answers 1 Sample.folders) ∧
    2 ∉ (Sample.retried.state 14).loaders ∧ Sample.folders.TellsOf Sample.home ∧ ∀ v ≥ 12,
      (Sample.retried.state v).shared.phase = .ready ⟨"standard", 1⟩ ∧
        (Sample.retried.state v).shared.workspace = Sample.home := by
  obtain ⟨_, _, hanswer, _, hready⟩ := Sample.retried.handshakes_agree Sample.retried_serial
  have hfirst : Sample.retried.Opens 0 0 Sample.bare := ⟨rfl, rfl⟩
  have hsecond : Sample.retried.Opens 6 1 Sample.folders := ⟨rfl, rfl⟩
  have hthird : Sample.retried.Opens 12 2 Sample.bare := ⟨rfl, rfl⟩
  have hfailed := ((hanswer 0 0 _ hfirst).2 5 (.error (.notFound "standard"))
    (List.mem_singleton.mpr rfl)).2.2 true
  have hloaded : Sample.retried.LoadedBefore 12 :=
    ⟨10, by decide, 1, "standard", ⟨0, rfl⟩, Sample.home, List.mem_singleton.mpr rfl⟩
  have hquiet := ((hanswer 12 2 _ hthird).2 13 (.ok ()) (List.mem_singleton.mpr rfl)).1
  obtain ⟨⟨_, _, params, _, _, hopens, htells, _⟩, hkept⟩ := hready 12 ⟨"standard", 1⟩ rfl
  obtain ⟨_, rfl⟩ := hopens.unique hsecond
  exact ⟨Sample.retried_serial, hfailed.mp ⟨_, rfl, rfl, rfl⟩,
    (hanswer 6 1 _ hsecond).1 Sample.retried_amid, fun hmem => hquiet.mp hmem hloaded, htells, hkept⟩

end Run

end Server

end LintServer
