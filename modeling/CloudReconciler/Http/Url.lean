import CloudReconciler.Http.Host

/-! # Addresses — URLs in their normal form

    `Url.read?` takes an address apart, puts every part into its normal
    form, and `Url.text` puts the parts together again.  Backslashes count as
    slashes in the known schemes, segments of one or two dots are resolved,
    and the port that a scheme implies is left out.  A segment that names a
    drive is never left by two dots. -/

namespace CloudReconciler.Http

/-- Who asks, whom and where. -/
structure Authority where
  user : String := ""
  password : Option String := none
  host : String
  port : Option Nat := none
  deriving DecidableEq, Repr

/-- An address in its normal form. -/
structure Url where
  scheme : String
  authority : Option Authority := none
  path : String
  query : Option String := none
  fragment : Option String := none
  deriving DecidableEq, Repr

namespace Url

/-- The known schemes and the ports that they imply. -/
def knownSchemes : List (String × Option Nat) :=
  [("http", some 80), ("https", some 443), ("ftp", some 21), ("ws", some 80), ("wss", some 443),
    ("file", none)]

/-- The scheme is known. -/
def isKnown (scheme : String) : Bool := knownSchemes.any (·.1 == scheme)

/-- The port that a scheme implies. -/
def impliedPort (scheme : String) : Option Nat :=
  (knownSchemes.find? (·.1 == scheme)).bind Prod.snd

/-! ## Text -/

/-- The user and password before the host. -/
def userText (a : Authority) : String :=
  if a.user = "" ∧ a.password = none then ""
  else a.user ++ (a.password.elim "" (":" ++ ·)) ++ "@"

/-- The text of an authority. -/
def authorityText (a : Authority) : String :=
  userText a ++ a.host ++ a.port.elim "" (":" ++ toString ·)

/-- The text of an address. -/
def text (u : Url) : String :=
  u.scheme ++ ":" ++
    (match u.authority with
      | some a => "//" ++ authorityText a
      | none => if "//".toList.isPrefixOf u.path.toList then "/." else "") ++
    u.path ++ u.query.elim "" ("?" ++ ·) ++ u.fragment.elim "" ("#" ++ ·)

/-! ## Reading -/

/-- The text before and after the first occurrence of a character. -/
def cut (c : Char) (cs : List Char) : List Char × Option (List Char) :=
  match cs.dropWhile (· ≠ c) with
  | [] => (cs, none)
  | _ :: rest => (cs.takeWhile (· ≠ c), some rest)

/-- The text before and after the last occurrence of a character. -/
def cutLast (c : Char) (cs : List Char) : Option (List Char × List Char) :=
  match cs.reverse.dropWhile (· ≠ c) with
  | [] => none
  | _ :: before => some (before.reverse, (cs.reverse.takeWhile (· ≠ c)).reverse)

/-- Controls and blanks around an address, and tabs and line ends inside it, do not count. -/
def cleaned (s : String) : List Char :=
  let outer (c : Char) : Bool := c ≤ ' '
  let inner := ((s.toList.dropWhile outer).reverse.dropWhile outer).reverse
  inner.filter fun c => !(c ∈ ['\t', '\n', '\r'])

/-- The scheme of an address and what follows its colon. -/
def scheme? (cs : List Char) : Option (String × List Char) :=
  match cut ':' cs with
  | (c :: name, some rest) =>
      if c.isAlpha ∧ name.all (fun c => c.isAlphanum || c ∈ ['+', '-', '.']) then
        some (String.ofList ((c :: name).map Char.toLower), rest)
      else none
  | _ => none

/-- A port at the start of a text, none if it is left out or implied, and what follows it. -/
def port? (scheme : String) (cs : List Char) : Option (Option Nat × List Char) := do
  let digits := cs.takeWhile Char.isDigit
  let rest := cs.dropWhile Char.isDigit
  let n ← valueOf? 10 digits
  if 65535 < n ∨ !(rest.isEmpty || rest.head? == some '\\') then none
  else some (if digits.isEmpty ∨ impliedPort scheme = some n then none else some n, rest)

/-- The text of a host, which ends at a colon outside of brackets, and what follows it. -/
def hostText (isInside : Bool) : List Char → List Char × List Char
  | [] => ([], [])
  | c :: rest =>
      if c = ':' ∧ !isInside then ([], c :: rest)
      else
        let (host, rest) := hostText (c == '[' || (isInside && c != ']')) rest
        (c :: host, rest)

/-- The authority of an address that is not of a file, and what a port leaves for the path.
    Known schemes need a host, and so do users and ports; nothing but the end of the address may
    follow an empty user and an empty host. -/
def authority? (scheme : String) (atEnd : Bool) (cs : List Char) :
    Option (Authority × List Char) := do
  let (info, rest) := (cutLast '@' cs).elim (none, cs) fun (info, rest) => (some info, rest)
  let encoded (cs : List Char) : String := String.ofList (percentEncode standsInUser cs)
  let (user, password) := cut ':' (info.getD [])
  let asks : Authority :=
    { user := encoded user, password := (password.filter (!·.isEmpty)).map encoded, host := "" }
  let (host, rest') := hostText false rest
  if info = some [] ∧ rest.isEmpty ∧ !atEnd then none
  else if host.isEmpty ∧ (isKnown scheme ∨ !rest'.isEmpty ∨ userText asks ≠ "") then none
  else
    let host ← if isKnown scheme then host? host else opaqueHost? host
    let (port, path) ← match rest' with
      | ':' :: digits => port? scheme digits
      | _ => some (none, [])
    return ({ asks with host := String.ofList host, port }, path)

/-! ## Paths -/

/-- A segment of dots, plain or encoded, by their number. -/
def dots (segment : List Char) : Option Nat :=
  let lower := segment.map Char.toLower
  if lower ∈ [['.'], "%2e".toList] then some 1
  else if lower ∈ ["..".toList, ".%2e".toList, "%2e.".toList, "%2e%2e".toList] then some 2
  else none

/-- A letter and a colon or bar, possibly with a backslash and more behind them. -/
def startsWithDrive : List Char → Bool
  | a :: b :: rest => a.isAlpha && (b == ':' || b == '|') && (rest.isEmpty || rest.head? == some '\\')
  | _ => false

/-- A letter and a colon or bar. -/
def isDrive (segment : List Char) : Bool := segment.length == 2 && startsWithDrive segment

/-- The segments before two dots, the last one first: it goes unless it starts with a drive. -/
def parent : List (List Char) → List (List Char)
  | [] => []
  | last :: before => if startsWithDrive last then last :: before else before

/-- A segment behind others; the first one of a file's path may be a drive, which has a colon. -/
def placed (isFile : Bool) (before : List (List Char)) (segment : List Char) : List (List Char) :=
  (if isFile && before.isEmpty && isDrive segment then segment.take 1 ++ [':'] else segment) :: before

/-- The segments of a path behind others with dots resolved, the last one first. -/
def resolve (isFile : Bool) (before : List (List Char)) : List (List Char) → List (List Char)
  | [] => before
  | segment :: rest =>
      let before :=
        match dots segment with
        | some 1 => before
        | some _ => parent before
        | none => placed isFile before segment
      if rest.isEmpty then (if (dots segment).isSome then [] :: before else before)
      else resolve isFile before rest

/-- The segments of the path that a text describes. -/
def segmentsOf (isFile : Bool) (isSlash : Char → Bool) (cs : List Char) : List (List Char) :=
  (resolve isFile [] ((splitAt isSlash cs).map (percentEncode standsInPath))).reverse

/-- The path with the given segments. -/
def pathText (segments : List (List Char)) : String := String.ofList (segments.flatMap ('/' :: ·))

/-- The host of a file and the text of its path.  Behind two slashes comes a host, unless a drive
    does; a file of this machine is on no host. -/
def fileParts? (isSlash : Char → Bool) (cs : List Char) : Option (List Char × List Char) :=
  let slashes := (cs.takeWhile isSlash).length
  let name := (cs.drop 2).takeWhile (!isSlash ·)
  let behind := (cs.drop 2).dropWhile (!isSlash ·)
  if slashes < 2 then some ([], cs.drop slashes)
  else if isDrive name then some ([], cs.drop 2)
  else if name.isEmpty then some ([], behind)
  else (host? name).map fun host =>
    if host = "localhost".toList then ([], behind) else (host, behind.drop 1)

/-- The host and path of a file.  A path that starts with a drive is on no host, and a path has
    no empty segments at its start. -/
def filePlace? (isSlash : Char → Bool) (cs : List Char) : Option (Authority × String) := do
  let (host, path) ← fileParts? isSlash cs
  let segments := segmentsOf true isSlash path
  let host := if segments.head?.any isDrive then [] else host
  let kept := segments.dropWhile (·.isEmpty)
  return ({ host := String.ofList host }, if kept.isEmpty then "/" else pathText kept)

/-- The authority and path of an address; something may follow them. -/
def place? (scheme : String) (atEnd : Bool) (cs : List Char) :
    Option (Option Authority × String) := do
  let known := isKnown scheme
  let isSlash (c : Char) : Bool := c == '/' || (known && c == '\\')
  let slashes := (cs.takeWhile isSlash).length
  let path (cs : List Char) : String := pathText (segmentsOf false isSlash cs)
  if scheme = "file" then
    let (authority, path) ← filePlace? isSlash cs
    return (some authority, path)
  else if known ∨ 2 ≤ slashes then
    let cs := if known then cs.drop slashes else cs.drop 2
    let behind := cs.dropWhile (!isSlash ·)
    let (authority, rest) ← authority? scheme (atEnd && behind.isEmpty) (cs.takeWhile (!isSlash ·))
    return (some authority,
      match rest ++ behind with
      | [] => if known then "/" else ""
      | c :: cs => path (if isSlash c then cs else c :: cs))
  else if slashes = 1 then return (none, path (cs.drop 1))
  else return (none, String.ofList (percentEncode isPlain cs))

/-- The address that a text describes. -/
def read? (s : String) : Option Url := do
  let (scheme, rest) ← scheme? (cleaned s)
  let (rest, fragment) := cut '#' rest
  let (rest, query) := cut '?' rest
  let (authority, path) ← place? scheme (query.isNone && fragment.isNone) rest
  let stands (c : Char) : Bool := standsInQuery c || (!isKnown scheme && c == '\'')
  return {
    scheme, authority, path
    query := query.map fun q => String.ofList (percentEncode stands q)
    fragment := fragment.map fun f => String.ofList (percentEncode standsInFragment f) }

/-- The address has a host. -/
def hasHost (u : Url) : Bool := u.authority.any (·.host ≠ "")

/-- What is sent as the target of a request. -/
def target (u : Url) : String := u.path ++ u.query.elim "" ("?" ++ ·)

example : (read? " HTTP://a:80/b/../c d?x='#f ").map text = some "http://a/c%20d?x=%27#f" ∧
    (read? "http:\\\\h").map text = some "http://h/" ∧ read? "http://" = none ∧
    read? "h/x" = none ∧ (read? "mailto:x y").map text = some "mailto:x y" ∧
    (read? "file://h/c|/../x").map text = some "file:///c:/x" := by decide +kernel

end Url

end CloudReconciler.Http
