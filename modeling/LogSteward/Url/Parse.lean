import LogSteward.Url.Host

/-!
# Addresses

The address of a resource, in its normal form, and how it is read from a text.  Reading puts scheme
and host into lower case, drops the port that the scheme has anyway, resolves `.` and `..` in the
path and percent-encodes what may not stand where it stands.

A path is a list of segments, or, for schemes such as `mailto`, a sealed text to which nothing can
be added.
-/

namespace LogSteward

inductive UrlPath where
  /-- Segments, each of which follows a slash. -/
  | segments (parts : List String)
  /-- A text without structure. -/
  | sealed (text : String)
deriving DecidableEq

structure Url where
  scheme : String
  username : String := ""
  password : String := ""
  host : Option String := none
  port : Option Nat := none
  path : UrlPath
  query : Option String := none
  fragment : Option String := none
deriving DecidableEq

namespace Url

/-- The port that a scheme has if none is given; the common schemes have one. -/
def defaultPort? : String → Option Nat
  | "http" | "ws" => some 80
  | "https" | "wss" => some 443
  | "ftp" => some 21
  | _ => none

/-- Whether a scheme is one of those whose addresses have a host and may be written with either
slash. -/
def isCommon (scheme : String) : Bool :=
  (defaultPort? scheme).isSome || scheme = "file"

/-! ### Writing -/

def userText (u : Url) : String :=
  if u.username = "" ∧ u.password = "" then ""
  else u.username ++ (if u.password = "" then "" else ":" ++ u.password) ++ "@"

def hostText (u : Url) : String :=
  match u.host with
  | none => ""
  | some h => "//" ++ u.userText ++ h ++ u.port.elim "" fun p => ":" ++ toString p

/-- A path; where there is no host, one that begins with two slashes is set apart. -/
def pathText (u : Url) : String :=
  match u.path with
  | .sealed t => t
  | .segments parts =>
    (if u.host.isNone && parts.head? = some "" && 1 < parts.length then "/." else "")
      ++ String.join (parts.map ("/" ++ ·))

/-- The query and the question mark before it. -/
def queryText (u : Url) : String :=
  u.query.elim "" ("?" ++ ·)

/-- The normal form of an address. -/
def toText (u : Url) : String :=
  u.scheme ++ ":" ++ u.hostText ++ u.pathText ++ u.queryText ++ u.fragment.elim "" ("#" ++ ·)

/-- What a request to the address asks its host for. -/
def target (u : Url) : String :=
  u.pathText ++ u.queryText

/-- The address as it is requested: who asks, and which part is of interest, is not said in it. -/
def requested (u : Url) : Url :=
  { u with username := "", password := "", fragment := none }

/-! ### Paths -/

/-- Whether a segment stands for the directory it is in. -/
def isHere (s : String) : Bool :=
  [".", "%2e", "%2E"].contains s

/-- Whether a segment stands for the directory above. -/
def isAbove (s : String) : Bool :=
  ["..", ".%2e", ".%2E", "%2e.", "%2E.", "%2e%2e", "%2e%2E", "%2E%2e", "%2E%2E"].contains s

/-- Whether a segment names a drive: a letter with a colon or a bar. -/
def isDrive (s : String) : Bool :=
  match s.toList with
  | [c, d] => c.isAlpha && (d = ':' || d = '|')
  | _ => false

/-- A path without its last segment, unless that names a drive. -/
def above (path : List String) : List String :=
  if path.getLast?.any isDrive then path else path.dropLast

/-- Adds a segment to a path.  One that stands for a directory only leaves its slash. -/
def addSegment (path : List String) (s : String) (isLast : Bool) : List String :=
  if isAbove s then
    if isLast then above path ++ [""] else above path
  else if isHere s then
    if isLast then path ++ [""] else path
  else path ++ [s]

/-- Adds segments to a path, resolving those that stand for directories. -/
def addSegments : List String → List String → List String
  | path, [] => path
  | path, [s] => addSegment path s true
  | path, s :: t :: rest => addSegments (addSegment path s false) (t :: rest)

/-! ### Reading -/

/-- The characters that are dropped wherever they stand. -/
def isDropped (c : Char) : Bool :=
  c = '\t' || c = '\n' || c = '\r'

/-- A text without tabs and line breaks. -/
def cleaned (s : List Char) : List Char :=
  s.filter (!isDropped ·)

/-- A text without controls and blanks at its ends. -/
def trimmed (s : List Char) : List Char :=
  let atEnd (c : Char) : Bool := c.toNat ≤ 0x20
  ((s.dropWhile atEnd).reverse.dropWhile atEnd).reverse

/-- The scheme and what follows its colon. -/
def scheme? (s : List Char) : Option (String × List Char) :=
  let isPart (c : Char) : Bool := c.isAlphanum || c = '+' || c = '-' || c = '.'
  match s with
  | [] => none
  | c :: _ =>
    if c.isAlpha then
      match s.dropWhile isPart with
      | ':' :: rest => some (String.ofList ((s.takeWhile isPart).map Char.toLower), rest)
      | _ => none
    else none

/-- Splits off what follows the first character of a kind. -/
def cut (sep : Char) (s : List Char) : List Char × Option (List Char) :=
  match s.dropWhile (· ≠ sep) with
  | [] => (s, none)
  | _ :: rest => (s.takeWhile (· ≠ sep), some rest)

/-- What an address ends with: the text before query and fragment, and these two, encoded. -/
def tail (common : Bool) (s : List Char) : List Char × Option String × Option String :=
  let (body, fragment) := cut '#' s
  let (path, query) := cut '?' body
  let set := if common then Percent.specialQuery else Percent.query
  ( path
  , query.map fun q => Percent.encode set (String.ofList (cleaned q))
  , fragment.map fun f => Percent.encode Percent.fragment (String.ofList (cleaned f)) )

/-- Whether a character is a slash. -/
def isSlash (common : Bool) (c : Char) : Bool :=
  c = '/' || (common && c = '\\')

/-- The encoded parts of a path after its first slash. -/
def partsOf (common : Bool) (s : List Char) : List String :=
  let slashed := s.map fun c => if isSlash common c then '/' else c
  (splitAt '/' slashed).map fun p => Percent.encode Percent.path (String.ofList p)

/-- The segments of a path after its first slash. -/
def segmentsOf (common : Bool) (s : List Char) : List String :=
  addSegments [] (partsOf common s)

/-- The path after a host: a common scheme always has one. -/
def pathAfterHost (common : Bool) (s : List Char) : UrlPath :=
  match s with
  | [] => .segments (if common then [""] else [])
  | c :: rest => .segments (segmentsOf common (if isSlash common c then rest else c :: rest))

/-- A port number of no more than sixteen bits, and what follows its digits: nothing, or a backslash
where that does not end the host. -/
def portOf (s : List Char) : Except UrlError (Option Nat × List Char) :=
  let digits := s.takeWhile Char.isDigit
  let rest := s.dropWhile Char.isDigit
  let n := digits.foldl (fun n c => n * 10 + (c.toNat - 0x30)) 0
  if rest.head?.any (· ≠ '\\') then .error .badPort
  else if digits = [] then .ok (none, rest)
  else if n < 65536 then .ok (some n, rest)
  else .error .badPort

/-- Splits a host from the port after it; colons in brackets belong to the host. -/
def splitPort (s : List Char) : List Char × Option (List Char) :=
  let rec go (inside : Bool) : List Char → List Char × Option (List Char)
    | [] => ([], none)
    | c :: rest =>
      if c = ':' && !inside then ([], some rest)
      else
        let inside' := if c = '[' then true else if c = ']' then false else inside
        let (h, p) := go inside' rest
        (c :: h, p)
  go false s

/-- User name and password, encoded, and the text after the last `@`. -/
def splitUser (s : List Char) : Option (String × String) × List Char :=
  match s.reverse.dropWhile (· ≠ '@') with
  | [] => (none, s)
  | _ :: before =>
    let after := (s.reverse.takeWhile (· ≠ '@')).reverse
    let (name, password) := cut ':' before.reverse
    let code (t : List Char) := Percent.encode Percent.userinfo (String.ofList t)
    (some (code name, (password.map code).getD ""), after)

/-- Reads an address from what follows the two slashes. -/
def afterSlashes (scheme : String) (s : List Char) : Except UrlError Url := do
  let common := isCommon scheme
  let isEnd (c : Char) : Bool := isSlash common c || c = '?' || c = '#'
  let authority := s.takeWhile (!isEnd ·)
  let beyond := s.dropWhile (!isEnd ·)
  let (user, hostPort) := splitUser authority
  if authority = ['@'] && !beyond.isEmpty then throw .emptyHost
  let (host, port) := splitPort hostPort
  if common && host.isEmpty then throw .emptyHost
  let host ← if common then Host.ofText host else Host.ofUncommonText host
  if host = "" && port.isSome then throw .emptyHost
  let (port, afterPort) ← match port with
    | some p => portOf p
    | none => pure (none, [])
  let (username, password) := user.getD ("", "")
  if host = "" && (username ≠ "" || password ≠ "") then throw .emptyHost
  let (path, query, fragment) := tail common (afterPort ++ beyond)
  return {
    scheme, username, password
    host := some host
    port := if port = defaultPort? scheme then none else port
    path := pathAfterHost common path
    query, fragment }

/-- A drive with which a text begins, and the text after it, where a tab or a line break parts them
and that text does not begin with a slash. -/
def partedDrive? (s : List Char) : Option (String × List Char) :=
  match s.dropWhile isDropped with
  | c :: rest =>
    match rest.dropWhile isDropped with
    | ':' :: t :: more =>
      let after := more.dropWhile isDropped
      if c.isAlpha && isDropped t && after.head?.any (!isSlash true ·) then
        some (String.ofList [c, ':'], cleaned after)
      else none
    | _ => none
  | [] => none

/-- The segments of a file's path after its first slash, and whether the first one alone names a
drive.  A drive is named with a colon, and empty segments at the beginning are left out.  What a tab
parts from a drive is a segment as it stands, even if it is a dot or two. -/
def fileSegments (s : List Char) : List String × Bool :=
  match partedDrive? s with
  | some (drive, after) =>
    let first := Percent.encode Percent.path (String.ofList (after.takeWhile (!isSlash true ·)))
    match after.dropWhile (!isSlash true ·) with
    | [] => ([drive, first], false)
    | _ :: more => (addSegments [drive, first] (partsOf true more), false)
  | none =>
    match segmentsOf true (cleaned s) with
    | [] => ([""], false)
    | first :: rest =>
      if isDrive first then (((first.take 1).toString ++ ":") :: rest, true)
      else
        match (first :: rest).dropWhile (· = "") with
        | [] => ([""], false)
        | parts => (parts, false)

/-- What follows a slash, if a text begins with one. -/
def afterSlash? (s : List Char) : Option (List Char) :=
  match s.dropWhile isDropped with
  | c :: rest => if isSlash true c then some rest else none
  | [] => none

/-- Reads the address of a file; tabs and line breaks still stand in it.  What stands in the place
of a host may be a drive, which begins the path; there is no host where the path begins with a
drive. -/
def fileAddress (s : List Char) : Except UrlError Url := do
  let (body, query, fragment) := tail true s
  let make (host : String) (path : List Char) : Url :=
    let (parts, onDrive) := fileSegments path
    { scheme := "file", host := some (if onDrive then "" else host), path := .segments parts
      query, fragment }
  match afterSlash? body with
  | none => return make "" body
  | some once =>
    match afterSlash? once with
    | none => return make "" once
    | some rest =>
      let host := cleaned (rest.takeWhile (!isSlash true ·))
      if isDrive (String.ofList host) then return make "" rest
      let path := (rest.dropWhile (!isSlash true ·)).drop 1
      if host.isEmpty then return make "" path
      let name ← Host.ofText host
      return make (if name = "localhost" then "" else name) path

/-- Reads an address of an uncommon scheme. -/
def uncommonAddress (scheme : String) (s : List Char) : Except UrlError Url :=
  match s with
  | '/' :: '/' :: rest => afterSlashes scheme rest
  | _ =>
    let (body, query, fragment) := tail false s
    let path : UrlPath := match body with
      | '/' :: rest => .segments (segmentsOf false rest)
      | _ => .sealed (Percent.encode Percent.controls (String.ofList body))
    .ok { scheme, path, query, fragment }

/-- Reads an address. -/
def ofText (s : String) : Except UrlError Url :=
  let text := trimmed s.toList
  match scheme? (cleaned text) with
  | none => .error .noBase
  | some (scheme, rest) =>
    if scheme = "file" then fileAddress ((text.dropWhile (· ≠ ':')).drop 1)
    else if isCommon scheme then afterSlashes scheme (rest.dropWhile (isSlash true))
    else uncommonAddress scheme rest

/-- What is said of a text that is not an address. -/
def invalidMessage (s : String) (e : UrlError) : String :=
  "invalid URL '" ++ s ++ "': " ++ e.message

/-! ### Extending -/

/-- A path without an empty last segment.  Of a path of one segment that is empty nothing is taken,
for it is the root. -/
def dropEmptyLast : List String → List String
  | [s] => [s]
  | parts => if parts.getLast? = some "" then parts.dropLast else parts

/-- Adds a name to a path as one segment.  A name that is a dot or two dots is left out; in others,
tabs and line breaks are dropped, and then all that could be taken for structure is encoded. -/
def pushName (common : Bool) (parts : List String) (name : String) : List String :=
  if name = "." ∨ name = ".." then parts
  else
    let set := if common then Percent.specialSegment else Percent.segment
    let s := Percent.encode set (String.ofList (cleaned name.toList))
    if parts = [""] then addSegment [] s true else addSegment parts s true

/-- The address below this one with further names in its path; there is none below a sealed one. -/
def below? (u : Url) (names : List String) : Option Url :=
  match u.path with
  | .sealed _ => none
  | .segments parts =>
    let parts := names.foldl (pushName (isCommon u.scheme)) (dropEmptyLast parts)
    some { u with path := .segments parts }

end Url

end LogSteward
