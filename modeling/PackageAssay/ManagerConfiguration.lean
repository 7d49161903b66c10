import PackageAssay.Database.Repository
import PackageAssay.Fixture

set_option autoImplicit false

namespace PackageAssay.ManagerConfiguration

def repositorySection (root : Path) (layout : Layout) (repository : Repository) : String :=
  "[" ++ repository.name ++ "]\nserver = file://" ++
    ((root.join layout.syncrepo).join repository.name).text ++ "\n"

def render (root : Path) (layout : Layout) (options : NameMap (List String))
    (repositories : List Repository) : String :=
  Text.joinLines (
    ["[options]"] ++
    options.entries.flatMap (fun (key, values) => values.map fun value => key ++ " = " ++ value) ++
    (repositories.filter fun repository => !repository.isLocal).map
      (repositorySection root layout))

def write (root : Path) (layout : Layout) (options : NameMap (List String))
    (repositories : List Repository) : Operation Unit :=
  Fixture.writeFile (root.join layout.conffile) (render root layout options repositories)

end PackageAssay.ManagerConfiguration
