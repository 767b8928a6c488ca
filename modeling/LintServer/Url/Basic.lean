import LintServer.Path
import LintServer.Url.Percent

/-!
# URLs

The parts of a URL, each kept in the form in which it is written, so that `Url.text` only puts
them together. Two documents are the same document when their URLs have the same text.
-/

namespace LintServer

/-- The path of a URL: a free text, or segments each of which a slash introduces. -/
inductive Url.Route
  | free (text : String)
  | rooted (segments : List String)
deriving DecidableEq, Repr

/-- A URL in parts. A URL with a host has an authority, and the host may be empty. -/
structure Url where
  scheme : String
  userName : String
  password : String
  host : Option String
  port : Option Nat
  route : Url.Route
  query : Option String
  fragment : Option String
deriving DecidableEq, Repr

namespace Url

/-- The text of a path. -/
def Route.text : Route → String
  | .free t => t
  | .rooted segments => String.join (segments.map ("/" ++ ·))

/-- The user name and password in front of a host. -/
def userInfoText (u : Url) : String :=
  let password := if u.password = "" then "" else ":" ++ u.password
  if u.userName = "" ∧ u.password = "" then "" else u.userName ++ password ++ "@"

/-- A path that starts with two slashes could be taken for a host where there is none; a dot
keeps them apart. -/
def guardText (route : Route) : String :=
  match route with
  | .rooted ("" :: _ :: _) => "/."
  | _ => ""

/-- The user, host and port, or what keeps the path from being taken for them. -/
def authorityText (u : Url) : String :=
  match u.host with
  | none => guardText u.route
  | some host =>
    "//" ++ u.userInfoText ++ host ++ (u.port.elim "" fun n => ":" ++ toString n)

/-- The text of a URL. -/
def text (u : Url) : String :=
  u.scheme ++ ":" ++ u.authorityText ++ u.route.text ++ (u.query.elim "" ("?" ++ ·))
    ++ (u.fragment.elim "" ("#" ++ ·))

/-- An ASCII letter, as a byte. -/
def isLetterByte (b : UInt8) : Bool := (65 ≤ b && b ≤ 90) || (97 ≤ b && b ≤ 122)

/-- Whether a path ends in a drive: a letter and a colon or bar, after something else. -/
def endsInDrive (bytes : List UInt8) : Bool :=
  match bytes.reverse with
  | mark :: letter :: _ :: _ => isLetterByte letter && (mark == 58 || mark == 124)
  | _ => false

/-- The file a URL names: its path decoded, when that is rooted and on this machine. -/
def filePath? (u : Url) : Option Path :=
  match u.route with
  | .free _ | .rooted [] => none
  | .rooted segments =>
    if u.host = none ∨ u.host = some "" ∨ u.host = some "localhost" then
      let bytes := segments.flatMap fun s => Path.slash :: decode s
      some ⟨if endsInDrive bytes then bytes ++ [Path.slash] else bytes⟩
    else none

end Url

end LintServer
