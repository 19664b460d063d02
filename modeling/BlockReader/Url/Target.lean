import BlockReader.Api.Site
import BlockReader.Url.Basic
set_option autoImplicit false

namespace BlockReader.Url

open Api (Target Request Response escape unescaped)

structure Asked where
  request : Request
  fragment : List Char

/-- The host under which this site is reached by URLs that name none. -/
def siteRoot : List Char := "http://testserver".toList

/-- A path as it is routed. An empty one is the home path. Escapes are resolved twice, so an escaped
percent sign may begin an escape of its own. -/
def routed (path : List Char) : List Char :=
  unescaped (unescaped (if path.isEmpty then ['/'] else path))

/-- Where a URL points that names this site by none of its parts: any slashes at the front of its
path count as one. -/
def relativeTarget (url : Url) : Except UrlFault Target :=
  let path := '/' :: url.path.dropWhile (· == '/')
  let query := escape isQuerySafe url.query
  if lengthLimit < (escape isPathSafe path).length then .error (.partTooLong "path")
  else if lengthLimit < query.length then .error (.partTooLong "query")
  else .ok ⟨siteRoot, routed (resolveDots path), query⟩

def schemes : List String := ["http", "https", "ws", "wss"]

/-- The characters outside ASCII that come first side by side, and where they stand. -/
def foreignRun? (characters : List Char) : Option (List Char × Nat) :=
  let isBasic (character : Char) : Bool := decide (character.toNat < 0x80)
  match characters.dropWhile isBasic with
  | [] => none
  | foreign => some (foreign.takeWhile (fun character => !isBasic character),
      (characters.takeWhile isBasic).length)

/-- Where a URL points that names a site: to this one, under the name that it gives. -/
def absoluteTarget (url : Url) : Except UrlFault Target :=
  let scheme := url.scheme.map Char.toLower
  match foreignRun? url.location with
  | some (foreign, position) => .error (.outsideAscii foreign position)
  | none =>
    if !schemes.contains (String.ofList scheme) then .error (.unknownScheme (String.ofList scheme))
    else match Host.Name.fault? url.host with
      | some fault => .error (.encodedName fault)
      | none =>
        .ok ⟨scheme ++ "://".toList ++ url.location, routed url.path, escape isQuerySafe url.query⟩

/-- What a URL asks for. Only one that names its site keeps its place within a page. -/
def ask (method text : String) : Except UrlFault Asked := do
  let url ← parse text
  if url.isAbsolute then
    let target ← absoluteTarget url
    pure ⟨⟨method, target⟩, unescaped url.fragment⟩
  else
    let target ← relativeTarget url
    pure ⟨⟨method, target⟩, []⟩

/-- What stands between the brackets of an origin, the nearest two, if it is no address. -/
def unknownAddress? (origin : List Char) : Option (List Char) :=
  match origin.dropWhile (· != '[') with
  | [] => none
  | _ :: rest =>
    let bracketed := rest.takeWhile (· != ']')
    if Host.isAddress6 bracketed then none else some bracketed

/-- Why a redirection cannot be followed. A location that names no site is joined to the origin of
the request, and the fragment that was asked for goes along to any location, where it must not hold
a control character. A location that is no URL is not followed at all. -/
def Asked.unfollowable? (asked : Asked) (response : Response) : Option UrlFault :=
  match response.location.map parse with
  | some (.ok url) =>
    let joined := if url.isAbsolute then [] else asked.request.target.origin
    match unknownAddress? joined, firstControl? asked.fragment with
    | some bracketed, _ => some (.unknownAddress (String.ofList bracketed))
    | none, some (character, position) => some (.unprintableFragment character position)
    | none, none => none
  | _ => none

end BlockReader.Url
