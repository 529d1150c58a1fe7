import ConfigStack.Url.Reader

/-!
# References

A reference read against the URL it stands in. Only for a base of a special scheme, which has a
host and a path of segments.
-/
namespace ConfigStack.Url

def Path.items : Path → List String
  | .segments items => items
  | .bare text => [text]

/-- The base with a path, a query and a fragment read anew; the path begins with `front`. -/
def withPath (base : Url) (front : List String) (cs : List Char) : Url :=
  let cut := Cut.of cs
  let pieces := (cutSegments .special cut.path).map fun s => String.ofList (encode .path s)
  { base with
    path := .segments (pushSegments .special front pieces)
    query := cut.queryText .special
    fragment := cut.fragmentText }

/-- A reference without a scheme. -/
def readRelative (base : Url) (cs : List Char) : Except ParseError Url :=
  match cs with
  | [] => .ok { base with fragment := none }
  | c :: rest =>
    if c = '#' then .ok { base with fragment := (Cut.of cs).fragmentText }
    else if c = '?' then
      let cut := Cut.of cs
      .ok { base with query := cut.queryText .special, fragment := cut.fragmentText }
    else if Kind.special.isSlash c then
      if (rest.head?.map Kind.special.isSlash).getD false then readSpecial base.scheme cs
      else .ok (withPath base [] rest)
    else .ok (withPath base base.path.items.dropLast cs)

/-- The URL that a reference names where it stands in `base`. -/
def join (base : Url) (reference : String) : Except ParseError Url :=
  let trimmed := Text.dropEndWhile isPadding (reference.toList.dropWhile isPadding)
  let cs := trimmed.filter fun c => !isIgnored c
  match cutScheme cs with
  | none => readRelative base cs
  | some (scheme, rest) =>
    if scheme = base.scheme && (rest.takeWhile Kind.special.isSlash).length < 2 then
      readRelative base rest
    else parse reference

end ConfigStack.Url
