import LintServer.FileWatch
import LintServer.Settings
import LintServer.Text.Quoted
import LintServer.Url.Basic

/-!
# What the server keeps

The state every task of the server can read: where the server stands in its life, the settings,
the open documents, what is known about the workspace, and the file watch it keeps.
-/

namespace LintServer

/-- A loaded engine: its name, and the handshake that loaded it. -/
structure Engine where
  name : String
  load : Nat
deriving DecidableEq, Repr

/-- Where the server stands in its life. -/
inductive Phase
  | uninitialized
  | initializing
  | ready (engine : Engine)
  /-- The engine did not load; only another handshake leads on. -/
  | failed (retry : Bool)
deriving DecidableEq, Repr

namespace Phase

/-- The engine, once there is one. -/
def engine? : Phase → Option Engine
  | .ready engine => some engine
  | _ => none

/-- Whether texts can be linted. -/
def isReady (phase : Phase) : Bool := phase.engine?.isSome

/-- The phase in words. -/
def text : Phase → String
  | .uninitialized => "Uninitialized"
  | .initializing => "Initializing"
  | .ready engine => "Ready(" ++ Text.quoted engine.name ++ ")"
  | .failed retry => "Failed \x7b retry: " ++ (if retry then "true" else "false") ++ " \x7d"

end Phase

/-- An open document. -/
structure Document where
  text : String
  version : Int32
deriving DecidableEq, Repr

/-- The open documents, at most one for each URL, in the order of the URLs' texts. -/
structure Documents where
  entries : List (Url × Document)
deriving DecidableEq, Repr

namespace Documents

/-- No documents. -/
def empty : Documents := ⟨[]⟩

/-- The document of a URL. -/
def get? (documents : Documents) (url : Url) : Option Document := documents.entries.lookup url

/-- The URLs of the open documents. -/
def urls (documents : Documents) : List Url := documents.entries.map (·.1)

/-- Forgets a document. -/
def erase (documents : Documents) (url : Url) : Documents :=
  ⟨documents.entries.filter fun e => e.1 != url⟩

/-- Puts an entry in front of the first whose URL has a greater text. -/
def place (url : Url) (document : Document) : List (Url × Document) → List (Url × Document)
  | [] => [(url, document)]
  | e :: more =>
    if url.text < e.1.text then (url, document) :: e :: more else e :: place url document more

/-- Opens a document, or replaces what was open under its URL. -/
def put (documents : Documents) (url : Url) (document : Document) : Documents :=
  ⟨place url document (documents.erase url).entries⟩

theorem lookup_cons (u k : Url) (document : Document) (more : List (Url × Document)) :
    ((k, document) :: more).lookup u = if u = k then some document else more.lookup u := by
  by_cases h : u = k
  · rw [h, List.lookup_cons_self, if_pos rfl]
  · rw [List.lookup_cons, beq_false_of_ne h, if_neg h]

/-- A forgotten document is gone, and the others are as they were. -/
theorem get?_erase (documents : Documents) (url u : Url) :
    (documents.erase url).get? u = if u = url then none else documents.get? u := by
  obtain ⟨entries⟩ := documents
  change (entries.filter fun e => e.1 != url).lookup u = if u = url then none else entries.lookup u
  induction entries with
  | nil => simp
  | cons e more ih =>
    obtain ⟨k, document⟩ := e
    by_cases hk : k = url
    · rw [List.filter_cons_of_neg (by simp [hk]), ih, lookup_cons, hk]
      by_cases hu : u = url
      · rw [if_pos hu, if_pos hu]
      · rw [if_neg hu, if_neg hu, if_neg hu]
    · rw [List.filter_cons_of_pos (by simp [hk]), lookup_cons, lookup_cons, ih]
      by_cases hu : u = k
      · rw [if_pos hu, if_pos hu, if_neg (hu ▸ hk)]
      · rw [if_neg hu, if_neg hu]

theorem lookup_place {url : Url} {entries : List (Url × Document)} (h : entries.lookup url = none)
    (u : Url) (document : Document) :
    (place url document entries).lookup u =
      if u = url then some document else entries.lookup u := by
  induction entries with
  | nil => exact lookup_cons u url document []
  | cons e more ih =>
    obtain ⟨k, other⟩ := e
    rw [lookup_cons] at h
    split at h
    · cases h
    · rename_i hk
      unfold place
      split
      · exact lookup_cons u url document _
      · rw [lookup_cons, lookup_cons, ih h]
        by_cases hu : u = k
        · rw [if_pos hu, if_pos hu, if_neg (by rw [hu]; exact fun he => hk he.symm)]
        · rw [if_neg hu, if_neg hu]

/-- An opened document is there, and the others are as they were. -/
theorem get?_put (documents : Documents) (url u : Url) (document : Document) :
    (documents.put url document).get? u = if u = url then some document else documents.get? u := by
  have hnone : (documents.erase url).get? url = none := by rw [get?_erase, if_pos rfl]
  have hplace : (documents.put url document).get? u =
      if u = url then some document else (documents.erase url).get? u :=
    lookup_place hnone u document
  rw [hplace, get?_erase]
  split <;> rfl

theorem perm_place (url : Url) (document : Document) (entries : List (Url × Document)) :
    (place url document entries).Perm ((url, document) :: entries) := by
  induction entries with
  | nil => exact List.Perm.refl _
  | cons e more ih =>
    unfold place
    split
    · exact List.Perm.refl _
    · exact (ih.cons e).trans (List.Perm.swap _ _ _)

/-! No URL stands twice. -/

theorem nodup_urls_erase {documents : Documents} (h : documents.urls.Nodup) (url : Url) :
    (documents.erase url).urls.Nodup :=
  h.sublist (List.filter_sublist.map _)

theorem nodup_urls_put {documents : Documents} (h : documents.urls.Nodup) (url : Url)
    (document : Document) : (documents.put url document).urls.Nodup := by
  have hperm : (documents.put url document).urls.Perm (url :: (documents.erase url).urls) :=
    (perm_place url document _).map _
  refine hperm.nodup_iff.mpr (List.nodup_cons.mpr ⟨?_, nodup_urls_erase h url⟩)
  intro hmem
  obtain ⟨e, he, rfl⟩ := List.mem_map.mp hmem
  simp [erase] at he

theorem mem_urls {documents : Documents} {url : Url} {document : Document}
    (h : documents.get? url = some document) : url ∈ documents.urls := by
  obtain ⟨l, r, hsplit, _⟩ := List.lookup_eq_some_iff.mp h
  exact List.mem_map.mpr ⟨(url, document), by rw [hsplit]; simp, rfl⟩

end Documents

/-- What a handshake tells about the workspace. -/
structure Workspace where
  root : Option Path
  /-- The editor can be asked to watch files. -/
  dynamicWatch : Bool
deriving DecidableEq, Repr

/-- A file watch, and the number of the task that follows it. -/
structure KeptWatch where
  watch : FileWatch
  follower : Nat
deriving DecidableEq, Repr

/-- The state all tasks share. -/
structure Shared where
  phase : Phase
  settings : Settings
  documents : Documents
  workspace : Workspace
  /-- The file watch the server keeps. -/
  kept : Option KeptWatch

/-- The state before anything happened. -/
def Shared.initial : Shared := ⟨.uninitialized, .default, .empty, ⟨none, false⟩, none⟩

end LintServer
