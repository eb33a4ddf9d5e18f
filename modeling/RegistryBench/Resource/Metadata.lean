import RegistryBench.Resource.Timestamp

/-!
# Object metadata

What every resource of the control plane carries, and references between resources.
-/

namespace RegistryBench

/-- Texts with names. -/
abbrev Annotations := Std.ExtTreeMap String String

/-- The metadata of a resource. -/
structure ObjectMeta where
  /-- The name. -/
  name : String := ""
  /-- The namespace, or nothing. -/
  ns : String := ""
  /-- When the resource was created; nothing when it was never stored. -/
  created : Option Timestamp := none
  /-- Further texts about the resource. -/
  annotations : Annotations := ∅
deriving DecidableEq, Inhabited

namespace ObjectMeta

/-- How metadata is written and read. -/
def codec : Codec ObjectMeta :=
  Fields.codec
    (.cons (.defaulted "name" .text "") <|
      .cons (.text "namespace") <|
      .cons (.optional "creationTimestamp" Timestamp.codec) <|
      .last (.table "annotations" .text))
    (fun (name, ns, created, annotations) => ⟨name, ns, created, annotations⟩)
    (fun m => (m.name, m.ns, m.created, m.annotations))

/-- The metadata of a resource that was never stored. -/
def named (ns name : String) : ObjectMeta :=
  { name, ns }

end ObjectMeta

/-- A reference to another resource. -/
structure ObjectReference where
  /-- The kind of the resource. -/
  kind : String
  /-- Its namespace, or nothing. -/
  ns : String
  /-- Its name. -/
  name : String
deriving DecidableEq, Inhabited

namespace ObjectReference

/-- The kind of an image as seen through a stream. -/
def streamImageKind : String := "ImageStreamImage"

/-- The kind of an image in some registry, named by its pull spec. -/
def dockerImageKind : String := "DockerImage"

/-- How references are written and read. -/
def codec : Codec ObjectReference :=
  Fields.codec
    (.cons (.required "kind" .text) <|
      .cons (.text "namespace") <|
      .last (.required "name" .text))
    (fun (kind, ns, name) => ⟨kind, ns, name⟩)
    (fun r => (r.kind, r.ns, r.name))

end ObjectReference

end RegistryBench
