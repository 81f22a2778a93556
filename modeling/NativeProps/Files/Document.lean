import NativeProps.Files.Tree
import NativeProps.Json.Reader

/-!
# JSON documents in files

* `DocumentFault`: why a file gives no value.
* `FileTree.document`: the value of a JSON file. Its bytes are decoded and its line ends unified
  before it is read.
-/

namespace NativeProps

/-- Why a file gives no value. -/
inductive DocumentFault where
  | refused (refusal : Refusal)
  | undecodable (fault : DecodeFault)
  | invalid (fault : ReadFault)
  deriving Repr

/-- The value of the JSON file that a path leads to. -/
def FileTree.document (t : FileTree) (p : Path) : Except DocumentFault Value :=
  match t.content p with
  | .error r => .error (.refused r)
  | .ok bytes =>
    match textOf? bytes with
    | none => .error (.undecodable (decodeFault bytes))
    | some s =>
      match Json.read t.halves (String.ofList (unifyNewlines s.toList)) with
      | .ok v => .ok v
      | .error f => .error (.invalid f)

end NativeProps
