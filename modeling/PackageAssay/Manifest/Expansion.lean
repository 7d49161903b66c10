import PackageAssay.Manifest.Entry
import PackageAssay.NameMap

/-!
# Expanded manifests

The expansion of a manifest lists the paths of its entries together with every directory that
leads to one of them, each once and in byte order.
-/

set_option autoImplicit false

namespace PackageAssay

/-- The beginnings of a path that end in a slash, the shortest first. -/
def leadingDirectories : List Char → List (List Char)
  | [] => []
  | head :: tail =>
      let longer := (leadingDirectories tail).map (head :: ·)
      if head = '/' then ['/'] :: longer else longer

def pathWithDirectories (path : String) : List String :=
  path :: (leadingDirectories path.toList).map String.ofList

def expandManifest (entries : List String) : List String :=
  sortedNames (entries.flatMap fun entry => pathWithDirectories (filenameOf entry))

end PackageAssay
