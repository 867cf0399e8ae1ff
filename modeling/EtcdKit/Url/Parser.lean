import EtcdKit.Url.Host
/-!
# Parser — absolute web addresses from text

Reading is forgiving in the way of browsers: blanks around the address and line breaks in it are
dropped, backslashes are slashes under the schemes of the web, dot segments are resolved, and what
has to be escaped is escaped.  A text without a scheme is no absolute address.
-/
namespace EtcdKit.Url

def impliedPort? (scheme : String) : Option Nat :=
  if scheme = "http" ∨ scheme = "ws" then some 80
  else if scheme = "https" ∨ scheme = "wss" then some 443
  else if scheme = "ftp" then some 21
  else none

/-- The schemes of the web, under which an address always has a host and a rooted path. -/
def isWebScheme (scheme : String) : Bool := (impliedPort? scheme).isSome

/-- A slash; under the schemes of the web and for files a backslash is one too. -/
def isSlash (lenient : Bool) (c : Char) : Bool := c == '/' || (lenient && c == '\\')

def isSingleDot (segment : List Char) : Bool :=
  let lower := segment.map Char.toLower
  lower == ['.'] || lower == "%2e".toList

def isDoubleDot (segment : List Char) : Bool :=
  let lower := segment.map Char.toLower
  lower == "..".toList || lower == ".%2e".toList || lower == "%2e.".toList ||
    lower == "%2e%2e".toList

def isBreak (c : Char) : Bool := c == '\t' || c == '\n' || c == '\r'

def joinLines (cs : List Char) : List Char := cs.filter fun c => !isBreak c

/-- A letter that names a drive, followed by a colon or a bar. -/
def isDrive (segment : List Char) : Bool :=
  match segment with
  | [letter, mark] => letter.isAlpha && (mark == ':' || mark == '|')
  | _ => false

/-- A segment that the directory above does not reach past: a drive, alone or before a
backslash. -/
def isAnchor (segment : List Char) : Bool :=
  match segment with
  | letter :: mark :: '\\' :: _ => isDrive [letter, mark]
  | segment => isDrive segment

/-- The text behind a drive from which a line break parts it. -/
def behindBrokenDrive? (segment : List Char) : Option (List Char × List Char) :=
  match segment.dropWhile isBreak with
  | letter :: rest =>
    match rest.dropWhile isBreak with
    | ':' :: behind =>
      let text := joinLines behind
      if letter.isAlpha && !text.isEmpty && behind.head?.any isBreak then some ([letter, ':'], text)
      else none
    | _ => none
  | [] => none

/-- The segments of a path that are closed, and whether the path starts with the drive of a
file. -/
structure Trail where
  closed : List String := []
  drive : Bool := false

def Trail.up (t : Trail) : Trail :=
  if t.closed.getLast?.any fun last => isAnchor last.toList then t
  else { t with closed := t.closed.dropLast }

/-- A path after a segment that is no dot segment.  The drive at the front of a file path is
written with a colon, and a drive that a line break parts from more text is a segment of its
own. -/
def Trail.push (file : Bool) (t : Trail) (segment : List Char) : Trail :=
  let text := joinLines segment
  match file && t.closed.isEmpty, behindBrokenDrive? segment, text with
  | true, some (drive, behind), _ =>
    { t with closed := [String.ofList drive, escape inPathSet behind] }
  | true, none, [letter, mark] =>
    if isDrive [letter, mark] then { closed := [String.ofList [letter, ':']], drive := true }
    else { t with closed := [escape inPathSet text] }
  | _, _, _ => { t with closed := t.closed ++ [escape inPathSet text] }

def Trail.close (file : Bool) (t : Trail) (segment : List Char) : Trail :=
  let text := joinLines segment
  if isDoubleDot text then t.up
  else if isSingleDot text then t
  else t.push file segment

/-- A path after its last segment: behind a dot segment an empty one ends the path. -/
def Trail.finish (file : Bool) (t : Trail) (segment : List Char) : Trail :=
  let text := joinLines segment
  if isDoubleDot text then { t.up with closed := t.up.closed ++ [""] }
  else if isSingleDot text then { t with closed := t.closed ++ [""] }
  else t.push file segment

def Trail.follow (file : Bool) : Trail → List (List Char) → Trail
  | t, [] => t
  | t, [last] => t.finish file last
  | t, segment :: segments => (t.close file segment).follow file segments

def Trail.of (lenient file : Bool) (cs : List Char) : Trail :=
  ({} : Trail).follow file (cs.splitOnP (isSlash lenient))

def segmentsOf (lenient : Bool) (cs : List Char) : List String := (Trail.of lenient false cs).closed

def dropEmptyFront : List String → List String
  | "" :: next :: rest => dropEmptyFront (next :: rest)
  | parts => parts

structure Tail where
  front : List Char
  query : Option (List Char)
  fragment : Option (List Char)

def cutAt (mark : Char) (cs : List Char) : List Char × Option (List Char) :=
  match cs.span (· != mark) with
  | (before, []) => (before, none)
  | (before, _ :: after) => (before, some after)

def Tail.of (cs : List Char) : Tail :=
  let (rest, fragment) := cutAt '#' cs
  let (front, query) := cutAt '?' rest
  ⟨front, query, fragment⟩

def Tail.queryText (t : Tail) (special : Bool) : Option String :=
  t.query.map fun cs => escape (inQuerySet special) (joinLines cs)

def Tail.fragmentText (t : Tail) : Option String :=
  t.fragment.map fun cs => escape inFragmentSet (joinLines cs)

/-- The text of the authority, up to the slash that opens the path. -/
def spanAuthority (lenient : Bool) (cs : List Char) : List Char × List Char :=
  cs.span fun c => !isSlash lenient c

def splitCredentials (cs : List Char) : Option (List Char) × List Char :=
  let host := (cs.reverse.takeWhile (· != '@')).reverse
  if host.length = cs.length then (none, cs)
  else (some (cs.take (cs.length - host.length - 1)), host)

/-- The host and the text of the port; colons in brackets belong to the host. -/
def splitPort : Bool → List Char → List Char × Option (List Char)
  | _, [] => ([], none)
  | inside, c :: cs =>
    if c == ':' && !inside then ([], some cs)
    else
      let (host, port) := splitPort (if c == '[' then true else if c == ']' then false else inside) cs
      (c :: host, port)

/-- A port: missing if it has no digits or is the implied one, refused above sixteen bits. -/
def port? (scheme : String) (digits : List Char) : Option (Option Nat) :=
  if digits.isEmpty then some none
  else if digits.all Char.isDigit then
    let n := Nat.ofDigitChars 10 digits 0
    if 65535 < n then none
    else some (if impliedPort? scheme = some n then none else some n)
  else none

/-- An authority, and what stands behind its port up to the next slash.  Outside the schemes of
the web the host may be missing if neither credentials nor a port are given; an at sign alone is
then allowed at the end of the address only. -/
def authority? (scheme : String) (cs : List Char) (atEnd : Bool) :
    Option (Authority × List Char) := do
  let web := isWebScheme scheme
  let (credentials, rest) := splitCredentials cs
  let (user, password) :=
    match credentials with
    | none => ([], none)
    | some text => cutAt ':' text
  let (hostText, portText) := splitPort false rest
  let username := escape inUserSet user
  let password := escape inUserSet (password.getD [])
  if hostText.isEmpty then
    if web || portText.isSome || username ≠ "" || password ≠ "" ||
        (credentials == some [] && !atEnd) then none
    else return ({ host := .name "" }, [])
  else
    let host ← if web then webHost? hostText else plainHost? hostText
    let (digits, behind) := (portText.getD []).span (· != '\\')
    let port ← port? scheme digits
    return ({ username, password, host, port }, behind)

def pathAfterAuthority (web : Bool) (cs : List Char) : Path :=
  match cs with
  | [] => if web then .segments [""] else .segments []
  | c :: rest => .segments (segmentsOf web (if isSlash web c then rest else c :: rest))

def withAuthority? (scheme : String) (t : Tail) (cs : List Char) : Option Url := do
  let web := isWebScheme scheme
  let (front, path) := spanAuthority web cs
  let (authority, behind) ←
    authority? scheme front (path.isEmpty && t.query.isNone && t.fragment.isNone)
  return {
    scheme
    authority := some authority
    path := pathAfterAuthority web (behind ++ path)
    query := t.queryText web
    fragment := t.fragmentText }

def fileHost? (cs : List Char) : Option Host :=
  if cs.isEmpty then some (.name "")
  else (webHost? cs).map fun host => if host = .name "localhost" then .name "" else host

/-- The address of a file on a host; a path that starts with a drive is on no host. -/
def fileAt (t : Tail) (host : Host) (path : Trail) : Url where
  scheme := "file"
  authority := some { host := if path.drive then .name "" else host }
  path := .segments (dropEmptyFront path.closed)
  query := t.queryText true
  fragment := t.fragmentText

def behindSlash? (cs : List Char) : Option (List Char) :=
  match cs.dropWhile isBreak with
  | c :: rest => if isSlash true c then some rest else none
  | [] => none

/-- The address of a file.  With a host, the slash behind it opens the path; without one, that
slash belongs to the path. -/
def file? (t : Tail) : Option Url :=
  let here := fun cs => fileAt t (.name "") (Trail.of true true cs)
  match behindSlash? t.front with
  | none => some (here t.front)
  | some path =>
    match behindSlash? path with
    | none => some (here path)
    | some rest =>
      let (front, path) := spanAuthority true rest
      let name := joinLines front
      if isDrive name then some (here rest)
      else (fileHost? name).map fun host =>
        if host = .name "" then here path
        else fileAt t host (Trail.of true true ((behindSlash? path).getD path))

def splitScheme? (cs : List Char) : Option (String × List Char) :=
  match cs with
  | [] => none
  | c :: _ =>
    let (scheme, rest) := cs.span fun d =>
      d.isAlphanum || d == '+' || d == '-' || d == '.' || isBreak d
    match rest with
    | ':' :: after =>
      if c.isAlpha then some (String.ofList ((joinLines scheme).map Char.toLower), after) else none
    | _ => none

def tidy (text : String) : List Char :=
  let outer := fun c : Char => c.toNat ≤ 0x20
  ((text.toList.dropWhile outer).reverse.dropWhile outer).reverse

def parse? (text : String) : Option Url := do
  let (scheme, rest) ← splitScheme? (tidy text)
  let t := Tail.of rest
  let front := joinLines t.front
  if scheme = "file" then file? t
  else if isWebScheme scheme then withAuthority? scheme t (front.dropWhile (isSlash true))
  else
    match front with
    | '/' :: '/' :: rest => withAuthority? scheme t rest
    | '/' :: rest =>
      return {
        scheme
        authority := none
        path := .segments (segmentsOf false rest)
        query := t.queryText false
        fragment := t.fragmentText }
    | front =>
      return {
        scheme
        authority := none
        path := .rootless (escape isControl front)
        query := t.queryText false
        fragment := t.fragmentText }

end EtcdKit.Url
