import CodeInventory.Path

namespace CodeInventory.Path

/-- The components below `base`, or all of them if the path does not start with it, joined by
slashes. -/
def relativeKey (path base : Path) : String :=
  let components := (componentsBelow? base.components path.components).getD path.components
  "/".intercalate (components.map Component.text)

/-- The last component of a root, or the root as written if that is no name. -/
def rootLabel (root : Path) : String :=
  match root.fileName? with
  | some name => Text.decodeLossy name
  | none => root.display

end CodeInventory.Path
