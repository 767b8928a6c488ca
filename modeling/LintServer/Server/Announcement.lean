import LintServer.Launch.Config
import LintServer.Server.Event

/-!
# Announcements

After the handshake the editor says that it is ready. The server then sees to it that changed
files are noticed: it asks the editor to watch them or, if the editor cannot or will not, watches
the workspace itself. At the end it leaves a note.
-/

namespace LintServer

/-- How far an announcement has come. -/
inductive Announcement
  | readDynamic
  | register
  | awaitAgreement
  | readRoot
  | startWatch (root : Path)
  | warn (text : String)
  | greet

/-- What follows a step of an announcement. -/
inductive Announcement.Next
  | goOn (announcement : Announcement)
  /-- A file watch has started, and a loop has to follow it. -/
  | follow (announcement : Announcement) (watch : FileWatch)
  | finish

/-- What is noted when the workspace cannot be watched. -/
def watchWarning (root : Path) (reason : String) : String :=
  "Failed to watch " ++ root.text ++ ": " ++ reason

/-- The last note of an announcement. -/
def greeting : String := "standard-language-server initialized"

/-- **One step of an announcement.** -/
def Announcement.step (config : Config) (shared : Shared) (task : Nat) (answer : Answer) :
    Announcement → Option (Announcement.Next × List Event)
  | .readDynamic =>
    match answer with
    | .proceed =>
      some (.goOn (if shared.workspace.dynamicWatch then .register else .readRoot), [])
    | _ => none
  | .register =>
    match answer with
    | .proceed => some (.goOn .awaitAgreement, [.asked task config.watchGlobs])
    | _ => none
  | .awaitAgreement =>
    match answer with
    | .registered agreed => some (.goOn (if agreed then .greet else .readRoot), [])
    | _ => none
  | .readRoot =>
    match answer with
    | .proceed =>
      some (.goOn (shared.workspace.root.elim .greet .startWatch), [])
    | _ => none
  | .startWatch root =>
    match answer with
    | .watching (.ok watch) => some (.follow .greet watch, [])
    | .watching (.error reason) => some (.goOn (.warn (watchWarning root reason.text)), [])
    | _ => none
  | .warn text =>
    match answer with
    | .proceed => some (.goOn .greet, [.noted .warning text])
    | _ => none
  | .greet =>
    match answer with
    | .proceed => some (.finish, [.noted .info greeting])
    | _ => none

end LintServer
