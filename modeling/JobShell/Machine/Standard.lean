import JobShell.Files.Edit

/-!
# The standard file tree

The directories, programs and devices that every machine has.
-/

namespace JobShell.World

def standardRoot : Node :=
  .directory
    [("usr", .directory
        [("bin", .directory
            (Program.all.map fun program =>
              (program.name, .program program)))]),
      ("bin", .link "usr/bin"),
      ("dev", .directory [("null", .null)]),
      ("root", .directory []),
      ("tmp", .directory [])]

/-- The standard tree seen from its root. -/
def standard : World :=
  { files := { root := standardRoot, contents := #[] }
    place := .root
    environment := []
    accountHome := "/root" }

end JobShell.World
