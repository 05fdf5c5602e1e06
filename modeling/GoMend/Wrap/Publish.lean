import GoMend.Volume.Disk
import GoMend.Wrap.Pipeline
import GoMend.Wrap.Table

/-!
# Publishing files

A file that was moved into the package is saved under its published name, and the
one it was read from goes away if that is another.
-/

namespace GoMend

namespace Pipeline

/-- Move the file at a path into the package. -/
def publish (pipeline : Pipeline) (path : Path) : Disk (Option Record) := do
  let source ← Source.load path
  let (result, moved) := pipeline.transform source
  let record ← Disk.ofExcept result
  let target := pipeline.publishedPath path
  moved.saveTo target
  if target.same path then
    return record
  else
    Disk.remove path
    return record

/-- Move all source files directly in a directory into the package, in the order of
their names. -/
def publishAll (pipeline : Pipeline) (dir : Path) : Disk (List Record) := do
  let records ← (← Source.list dir).mapM pipeline.publish
  return records.filterMap id

end Pipeline

namespace Table

/-- Write the lookup table into a directory; tell where it went. -/
def emit (table : Table) (records : List Record) (dir : Path) : Disk Path := do
  Disk.writeText (table.path dir) (table.render records)
  return table.path dir

end Table

end GoMend
