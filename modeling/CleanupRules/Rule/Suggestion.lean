import CleanupRules.Host.Ancestry

/-!
Rules to suggest for a host.
-/

namespace CleanupRules.Rule

/-- The rule for a domain with everything below it. -/
def below (domain : Host) : List Char :=
  Label.wildcard ++ '.' :: domain

/-- Rules for a host, the most specific one first: the host itself, then its parents with
everything below them, down to the registrable domain. A host without parents gets itself with
everything below; an address stays alone. -/
def suggest (host : Host) : List (List Char) :=
  let normal := Host.normalize host
  if normal = [] then []
  else if Host.isAddress normal then [normal]
  else
    match (Host.ancestry normal).tail with
    | [] => [normal, below normal]
    | parents => normal :: parents.map below

end CleanupRules.Rule
