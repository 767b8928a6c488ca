import LintServer.Url.Basic
import LintServer.Url.Host

/-!
# Reading URLs

A URL is read from the outside in: blanks and controls at the ends go first, then the scheme, the
fragment and the query are cut off, and what is left is an authority and a path. Tabs and line
breaks inside say nothing, save that one behind a drive ends it. Dots in the path are resolved
while it is read. Schemes for the web (`Scheme.web`)
always have an authority, those for files often an empty one, and every other scheme may have
neither authority nor rooted path.
-/

namespace LintServer.Url
open Text (cut)

/-- The kinds of schemes that are read differently. -/
inductive Scheme
  | web (defaultPort : Nat)
  | file
  | other
deriving DecidableEq, Repr

/-- The kind of a scheme, by its name in lower case. -/
def Scheme.ofName (name : String) : Scheme :=
  if name = "http" ∨ name = "ws" then .web 80
  else if name = "https" ∨ name = "wss" then .web 443
  else if name = "ftp" then .web 21
  else if name = "file" then .file
  else .other

/-- Whether the backslash is a slash for this kind of scheme. -/
def Scheme.isSpecial : Scheme → Bool
  | .other => false
  | _ => true

/-- Whether a character separates the segments of a path. -/
def Scheme.isSlash (s : Scheme) (c : Char) : Bool := c == '/' || (s.isSpecial && c == '\\')

/-- Tabs and line breaks, which say nothing in a URL. -/
def isBreak (c : Char) : Bool := c == '\t' || c == '\n' || c == '\r'

/-- A text without its tabs and line breaks. -/
def unbroken (cs : List Char) : List Char := cs.filter fun c => !isBreak c

/-- A text without the blanks and controls at its ends. -/
def trim (s : String) : List Char :=
  let isEdge := fun c : Char => decide (c.toNat ≤ 32)
  ((s.toList.dropWhile isEdge).reverse.dropWhile isEdge).reverse

/-- A character of a scheme after its first. -/
def isSchemeChar (c : Char) : Bool :=
  c.isAlphanum || c == '+' || c == '-' || c == '.'

/-- The scheme in lower case, and what follows its colon. -/
def scheme? (cs : List Char) : Option (String × List Char) :=
  let belongs := fun c => isSchemeChar c || isBreak c
  let name := unbroken (cs.takeWhile belongs)
  match cs.dropWhile belongs with
  | ':' :: rest =>
    if name.head?.any Char.isAlpha then some (String.ofList (name.map Char.toLower), rest) else none
  | _ => none

/-- The text before a character and, if the character is there, the text after it. -/
def cutOff (mark : Char) (cs : List Char) : List Char × Option (List Char) :=
  match cs.dropWhile (· != mark) with
  | [] => (cs, none)
  | _ :: rest => (cs.takeWhile (· != mark), some rest)

/-! ### Paths

A path is read segment by segment. The text in front of the segment being read is kept with its last
character first, so that going up only takes characters off its head. -/

/-- Whether a segment stands for the place itself. -/
def isDot (segment : List Char) : Bool :=
  [".", "%2e"].contains (String.ofList (segment.map Char.toLower))

/-- Whether a segment stands for the place above. -/
def isDotDot (segment : List Char) : Bool :=
  ["..", ".%2e", "%2e.", "%2e%2e"].contains (String.ofList (segment.map Char.toLower))

/-- Whether a segment is a drive: a letter and a colon or bar. -/
def isDrive : List Char → Bool
  | [letter, mark] => letter.isAlpha && (mark == ':' || mark == '|')
  | _ => false

/-- Whether a segment is a drive as it is finally written. -/
def isPlainDrive : List Char → Bool
  | [letter, ':'] => letter.isAlpha
  | _ => false

/-- The last segment of a text whose last character comes first. -/
def lastSegment (text : List Char) : List Char := (text.takeWhile (· != '/')).reverse

/-- A text with a slash at its end. -/
def withSlash : List Char → List Char
  | '/' :: before => '/' :: before
  | text => '/' :: text

/-- A text without the slash at its end, if that is neither the first one nor behind a drive. -/
def dropSlash : List Char → List Char
  | '/' :: before =>
    if before.contains '/' && !isDrive (lastSegment before) then before else '/' :: before
  | text => text

/-- Goes up from a place; there is no way up from a drive. -/
def above (scheme : Scheme) (text : List Char) : List Char :=
  let text := dropSlash text
  if scheme = .file ∧ isPlainDrive (lastSegment text) then text else text.dropWhile (· != '/')

/-- A path that is being read: the text in front of a segment, its last character first, and what is
read of the segment. `onDrive` says that a drive was found in front. -/
structure PathState where
  before : List Char
  segment : List Char
  onDrive : Bool

namespace PathState

/-- The text read so far. -/
def text (state : PathState) : List Char := state.before.reverse ++ state.segment

/-- Reads a stretch without breaks. What follows a drive after a break is written behind a slash,
though still in the same segment, which then starts at the drive's mark. -/
def add (scheme : Scheme) (state : PathState) (stretch : List Char) : PathState :=
  let written := encode inPath stretch
  match scheme, stretch, state.before, state.segment with
  | .file, _ :: _, [c], [letter, ':'] =>
    if letter.isAlpha then
      { state with before := [letter, c], segment := ':' :: '/' :: written }
    else { state with segment := state.segment ++ written }
  | _, _, _, _ => { state with segment := state.segment ++ written }

/-- Ends a segment, at a slash or at the end of the path. -/
def close (scheme : Scheme) (slash : Bool) (state : PathState) : PathState :=
  let ended := fun (text : List Char) => if slash then withSlash text else text
  if isDotDot state.segment then ⟨ended (above scheme state.before), [], state.onDrive⟩
  else if isDot state.segment then ⟨withSlash state.before, [], state.onDrive⟩
  else
    let isFirst := scheme == .file && !state.before.isEmpty && state.before.tail.isEmpty
    let found := isFirst && isDrive state.segment
    let segment := if found then state.segment.take 1 ++ [':'] else state.segment
    let text := segment.reverse ++ state.before
    ⟨if slash then '/' :: text else text, [], state.onDrive || found⟩

/-- Reads a segment. -/
def read (scheme : Scheme) (slash : Bool) (state : PathState) (segment : List Char) : PathState :=
  ((cut isBreak segment).foldl (add scheme) state).close scheme slash

end PathState

/-- Reads a path behind a text. -/
def readPath (scheme : Scheme) (before cs : List Char) : PathState :=
  let segments := cut scheme.isSlash cs
  let state := segments.dropLast.foldl (PathState.read scheme true) ⟨before.reverse, [], false⟩
  segments.getLast?.elim state (state.read scheme false)

/-- The route of a path's text: a slash introduces each of its segments. -/
def Route.ofText : List Char → Route
  | [] => .rooted []
  | _ :: text => .rooted ((cut (· == '/') text).map String.ofList)

/-! ### Authorities -/

/-- The text before and after the last `@`. -/
def cutAtUser (cs : List Char) : Option (List Char × List Char) :=
  match cs.reverse.dropWhile (· != '@') with
  | [] => none
  | _ :: before => some (before.reverse, (cs.reverse.takeWhile (· != '@')).reverse)

/-- The end of a host: a colon outside brackets. -/
def cutAtPort (inside : Bool) : List Char → List Char × Option (List Char)
  | [] => ([], none)
  | c :: r =>
    if c = ':' ∧ !inside then ([], some r)
    else
      let inside := if c = '[' then true else if c = ']' then false else inside
      let (host, port) := cutAtPort inside r
      (c :: host, port)

/-- The number of a port, if one is given; `scheme` says which need not be written. A backslash
ends it. -/
def parsePort (scheme : Scheme) (cs : List Char) : Except Error (Option Nat) :=
  if cs = [] then .ok none
  else if !cs.all Char.isDigit then .error .badPort
  else
    match numberIn? 10 cs with
    | none => .error .badPort
    | some n =>
      if 65535 < n then .error .badPort
      else if scheme = .web n then .ok none
      else .ok (some n)

/-- What stands between the slashes in front of a host and the path. -/
structure Authority where
  userName : String
  password : String
  host : String
  port : Option Nat

/-- Reads the user, host and port of a URL that is not for files; `more` says whether anything
follows them. -/
def parseAuthority (scheme : Scheme) (more : Bool) (cs : List Char) : Except Error Authority := do
  let (user, cs, named) :=
    match cutAtUser cs with
    | none => ([], cs, false)
    | some (user, rest) => (user, rest, true)
  if named && user == [] && cs == [] && more then throw .emptyHost
  let (name, password) := cutOff ':' user
  let userName := String.ofList (encode inUserInfo name)
  let password := String.ofList (encode inUserInfo (password.getD []))
  let (host, port) := cutAtPort false cs
  if host == [] && scheme.isSpecial then throw .emptyHost
  let host ← if scheme.isSpecial then parseHost host else parseFreeHost host
  if host = "" ∧ port.isSome then throw .emptyHost
  let port ← port.elim (.ok none) (parsePort scheme)
  if host = "" ∧ (userName ≠ "" ∨ password ≠ "") then throw .emptyHost
  return ⟨userName, password, host, port⟩

/-- A path without host. -/
def bare (scheme : String) (route : Route) : Url := ⟨scheme, "", "", none, none, route, none, none⟩

/-- Reads what follows the two slashes of a URL that is not for files; `more` says whether a query
or fragment follows. -/
def parseWithAuthority (name : String) (scheme : Scheme) (more : Bool) (cs : List Char) :
    Except Error Url := do
  let stop := fun c => !scheme.isSlash c
  let before := cs.takeWhile stop
  let after := cs.dropWhile stop
  let (before, after) :=
    if scheme.isSpecial then (before, after)
    else
      -- a backslash after a port ends the authority of other schemes too
      match (cutAtPort false ((cutAtUser before).elim before Prod.snd)).2 with
      | none => (before, after)
      | some digits =>
        let tail := digits.dropWhile (· != '\\')
        (before.take (before.length - tail.length), tail ++ after)
  let authority ← parseAuthority scheme (more || after != []) before
  let text :=
    match after with
    | [] => if scheme.isSpecial then ['/'] else []
    | c :: r => (readPath scheme ['/'] (if scheme.isSlash c then r else c :: r)).text
  return ⟨name, authority.userName, authority.password, some authority.host, authority.port,
    .ofText text, none, none⟩

/-! ### Files -/

/-- A URL for a file on a host: slashes in front of its path say nothing. -/
def ofFile (name host : String) (state : PathState) : Url :=
  let text := '/' :: state.text.dropWhile (· == '/')
  { bare name (.ofText text) with host := some (if state.onDrive then "" else host) }

/-- Reads what follows `file:` and two slashes. -/
def parseFileHost (name : String) (cs : List Char) : Except Error Url := do
  let stop := fun c => !Scheme.file.isSlash c
  let host := unbroken (cs.takeWhile stop)
  let after := cs.dropWhile stop
  if isDrive host then return ofFile name "" (readPath .file ['/'] cs)
  else if host = [] then return ofFile name "" (readPath .file ['/'] after)
  else
    let host ← parseHost host
    if host = "localhost" then return ofFile name "" (readPath .file ['/'] after)
    else return ofFile name host (readPath .file ['/'] (after.drop 1))

/-- Reads what follows `file:`. -/
def parseFile (name : String) (cs : List Char) : Except Error Url :=
  let skip := List.dropWhile isBreak
  match skip cs with
  | [] => .ok (ofFile name "" (readPath .file ['/'] []))
  | a :: rest =>
    if Scheme.file.isSlash a then
      match skip rest with
      | b :: more =>
        if Scheme.file.isSlash b then parseFileHost name more
        else .ok (ofFile name "" (readPath .file [] (a :: rest)))
      | [] => .ok (ofFile name "" (readPath .file [] (a :: rest)))
    else .ok (ofFile name "" (readPath .file ['/'] (a :: rest)))

/-- Reads what follows the scheme, without query and fragment; `more` says whether there are
any. -/
def parseRest (name : String) (more : Bool) (cs : List Char) : Except Error Url :=
  let scheme := Scheme.ofName name
  match scheme with
  | .file => parseFile name cs
  | .web _ => parseWithAuthority name scheme more ((unbroken cs).dropWhile scheme.isSlash)
  | .other =>
    match unbroken cs with
    | '/' :: '/' :: rest => parseWithAuthority name scheme more rest
    | '/' :: rest => .ok (bare name (.ofText (readPath scheme ['/'] rest).text))
    | cs => .ok (bare name (.free (String.ofList (encode isControl cs))))

/-- **Reads a URL.** -/
def parse (s : String) : Except Error Url :=
  match scheme? (trim s) with
  | none => .error .noScheme
  | some (name, rest) => do
    let (rest, fragment) := cutOff '#' rest
    let (rest, query) := cutOff '?' rest
    let url ← parseRest name (query.isSome || fragment.isSome) rest
    let inThisQuery := if (Scheme.ofName name).isSpecial then inSpecialQuery else inQuery
    return { url with
      query := query.map fun q => String.ofList (encode inThisQuery (unbroken q))
      fragment := fragment.map fun f => String.ofList (encode inFragment (unbroken f)) }

end LintServer.Url
