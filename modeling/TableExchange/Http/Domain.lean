import TableExchange.Http.Domain.Label

/-!
Domain names: their form in ASCII, which is what the network knows. A name is mapped and composed
as a whole and then checked label by label.
-/

namespace TableExchange.Http.Domain

def cutAll (mark : Char) : List Char → List (List Char)
  | [] => [[]]
  | c :: rest =>
    if c = mark then [] :: cutAll mark rest
    else match cutAll mark rest with
      | [] => [[c]]
      | piece :: pieces => (c :: piece) :: pieces

def keepsOrder (labels : List (List Char)) : Bool :=
  !(labels.any fun label => label.any needsOrder) || labels.all isOrdered

def ascii? (name : List Char) : Option (List Char) := do
  let labels := cutAll '.' (Text.composed (← mappedText? name))
  let meanings ← labels.mapM meaning?
  let texts ← labels.mapM labelText?
  if keepsOrder meanings then some (['.'].intercalate texts) else none

end TableExchange.Http.Domain
