import PageBuilder.Policy.Registry

/-!
# Allowed styles

The style keys that a tag may use: those of its groups and of every list that allows, less those
that any list denies, as far as every narrowing layer lets them through. The key `size` stands for
width and height together and comes with either.
-/

namespace PageBuilder
namespace Inspector

open Policy

/-- The key that stands for width and height together. -/
def sizeKey : String := "size"

/-- One of the two dimensions is there. -/
def hasDimension (keys : NameSet) : Bool := decide ("width" ∈ keys) || decide ("height" ∈ keys)

/-- The keys that some list allows on a tag. -/
def granted (g : GlobalStyles) (tag : String) (t : TagPolicy) : List String :=
  t.groupKeys ++ g.allow ++ ((g.perTag.get? tag).elim [] StyleLists.allow) ++
    (t.styles.elim [] StyleLists.allow)

/-- The keys that some list or layer denies on a tag. -/
def denied (g : GlobalStyles) (tag : String) (t : TagPolicy) (layers : List Narrowing) :
    List String :=
  g.deny ++ ((g.perTag.get? tag).elim [] StyleLists.deny) ++ (t.styles.elim [] StyleLists.deny) ++
    layers.flatMap fun n => n.deny.names

/-- Add `size` beside a dimension, unless it is denied. -/
def withSize (denied : List String) (keys : NameSet) : NameSet :=
  if hasDimension keys && !denied.contains sizeKey then keys.insert sizeKey else keys

/-- Keep the keys that every layer lets through. -/
def narrow (layers : List Narrowing) (keys : NameSet) : NameSet :=
  layers.foldl (fun ks n => ks.filter n.permits) keys

/-- Drop `size` where no dimension is left. -/
def withoutLoneSize (keys : NameSet) : NameSet :=
  if hasDimension keys then keys else keys.filter fun k => k != sizeKey

/-- The style keys that a tag may use. A tag without a policy may use none. -/
def allowedStyles (r : Registry) (tag : String) (layers : List Narrowing) : NameSet :=
  match r.tag? tag with
  | none => .empty
  | some t =>
    let out := denied r.styles tag t layers
    let keys := (NameSet.ofList (granted r.styles tag t)).filter fun k => !out.contains k
    withoutLoneSize (narrow layers (withSize out keys))

end Inspector
end PageBuilder
