import LogSteward.Json.Reader
import LogSteward.Rest.Message
import LogSteward.Text.Blank

/-!
# HTTP on the wire

A request as octets, and a reply from all the octets that came until the connection was closed.  A
body is as long as the reply announces, comes in chunks, or lasts until the end; one that is shorter
than announced broke off.
-/

namespace LogSteward.Rest

def lineBreak : Octets := [0x0D, 0x0A]

/-- The host and the port of an address, as they are named in a request. -/
def hostHeader (u : Url) : String :=
  u.host.getD "" ++ u.port.elim "" fun p => ":" ++ toString p

/-- The octets of a request, after whose answer the connection is closed. -/
def Request.toOctets (r : Request) : Octets :=
  let body := r.body.map Utf8.encode
  let line (s : String) : Octets := Utf8.encode s ++ lineBreak
  line (r.method.name ++ " " ++ r.address.target ++ " HTTP/1.1")
    ++ line ("host: " ++ hostHeader r.address)
    ++ line ("authorization: " ++ r.authorization)
    ++ line "accept: */*"
    ++ line "connection: close"
    ++ (r.contentType?.elim [] fun t => line ("content-type: " ++ t))
    ++ (body.elim [] fun b => line ("content-length: " ++ toString b.length))
    ++ lineBreak ++ body.getD []

/-- The octets up to the first line break, and those after it. -/
def cutLine : Octets → Option (Octets × Octets)
  | [] => none
  | b :: rest =>
    if lineBreak.isPrefixOf (b :: rest) then some ([], rest.drop 1)
    else (cutLine rest).map fun (line, after) => (b :: line, after)

/-- A header, its name in lower case. -/
def header? (line : Octets) : Option (String × String) :=
  match (Utf8.decodeLossy line).splitOn ":" with
  | name :: value :: more => some (lowerAscii name, trimBlanks (":".intercalate (value :: more)))
  | _ => none

/-- The headers up to the empty line, of at most the given number, and the octets after it. -/
def headers : Nat → Octets → Option (List (String × String) × Octets)
  | 0, _ => none
  | n + 1, s =>
    match cutLine s with
    | none => none
    | some ([], rest) => some ([], rest)
    | some (line, rest) =>
      (headers n rest).map fun (hs, rest') => ((header? line).toList ++ hs, rest')

/-- A length in hexadecimal digits, at the start of a line. -/
def chunkLength? (line : Octets) : Option Nat :=
  match line.takeWhile fun b => (Json.Octet.hexValue? b).isSome with
  | [] => none
  | ds => Json.hexNumber? ds

/-- The body that chunks amount to, of which there are at most the given number; none if they broke
off. -/
def chunks : Nat → Octets → Option Octets
  | 0, _ => none
  | n + 1, s =>
    match cutLine s with
    | none => none
    | some (line, rest) =>
      match chunkLength? line with
      | none => none
      | some 0 => some []
      | some size =>
        let after := rest.drop size
        if lineBreak.isPrefixOf after then
          (chunks n (after.drop lineBreak.length)).map (rest.take size ++ ·)
        else none

/-- The status in the first line of a reply. -/
def status? (line : Octets) : Option Nat :=
  match (Utf8.decodeLossy line).splitOn " " with
  | version :: status :: _ => if version.startsWith "HTTP/1." then status.toNat? else none
  | _ => none

/-- The body of a reply with the given headers, unless it broke off. -/
def bodyOf (hs : List (String × String)) (s : Octets) : Option Octets :=
  if (hs.lookup "transfer-encoding").any (lowerAscii · = "chunked") then chunks (s.length + 1) s
  else match (hs.lookup "content-length").bind String.toNat? with
    | none => some s
    | some n => if s.length < n then none else some (s.take n)

/-- The reply that octets spell. -/
def Reply.ofOctets? (s : Octets) : Option Reply := do
  let (line, rest) ← cutLine s
  let status ← status? line
  let (hs, rest) ← headers (s.length + 1) rest
  return { status, body := if isBodiless status then some [] else bodyOf hs rest }

end LogSteward.Rest
