/-! # The release of the package

The version is shown at the start of a debug log and on demand. Its base form leaves out what marks
a version as preliminary; this version has nothing of the kind.
-/

namespace Hexwire.Release

/-- The version. -/
def version : String := "0.4.0"

/-- The version without the marks of a preliminary one. -/
def baseVersion : String := version

/-- How mature the release is. -/
def maturity : String := "beta"

end Hexwire.Release
