import RegistryBench.Manifest.Builder

/-!
# Builders that are turned to OCI

Turning a builder to OCI changes the type of the manifest, and the types of the contents and blobs
that are given to it from then on. A config that was given by its content and a layer that was given
by its blob before that keep the docker type. So where the first turn stands matters, and where
further ones stand does not. A manifest that was given no config is another matter: its config is
typed when the manifest is built, so that the turn may come at any time.

The builder of lists gives no types to what it lists, and may be turned at any time.

## Main definitions

* `ManifestBuilder.ociManifest`: the manifest that some steps ask for when all that the builder
  gives a type to has the OCI type.

## Main results

* `ManifestBuilder.foldl_step_eq_gather`: what steps add to a builder whose types stay as they are.
* `ManifestBuilder.ofSteps_eq_ociManifest_iff`: what a builder that is turned makes, and when that
  does not depend on the turn.
* `ManifestBuilder.ofSteps_mixed`: a manifest with two families of types.
* `ManifestListBuilder.ofSteps_of_mem_oci`: a list that is turned is an index.
-/

namespace RegistryBench

namespace ManifestBuilder

namespace Step

/-- Whether a step turns the builder to OCI. -/
def isOci : Step → Bool
  | oci => true
  | _ => false

/-- Whether a step sets the config. -/
def setsConfig : Step → Bool
  | config _ => true
  | configDescriptor _ => true
  | _ => false

/-- The config that a step sets, where contents get some media type. -/
def config? (mediaType : String) : Step → Option Descriptor
  | config content => some (.ofContent mediaType content)
  | configDescriptor descriptor => some descriptor
  | _ => none

/-- The layer that a step adds, where blobs get some media type. -/
def layer? (mediaType : String) : Step → Option Descriptor
  | layer descriptor => some descriptor
  | layerBlob blob => some { blob.descriptor with mediaType }
  | _ => none

theorem isSome_config? (mediaType : String) (step : Step) :
    (step.config? mediaType).isSome = step.setsConfig := by
  cases step <;> rfl

theorem isOci_eq_true_iff {step : Step} : step.isOci = true ↔ step = .oci := by
  cases step <;> simp [isOci]

end Step

/-! ### What steps ask for -/

/-- The step that decides on the config: the last one that sets it. -/
def decidingStep? (steps : List Step) : Option Step :=
  steps.reverse.find? Step.setsConfig

/-- The config that some steps set in the end, where contents get some media type. -/
def lastConfig? (mediaType : String) (steps : List Step) : Option Descriptor :=
  (decidingStep? steps).bind (Step.config? mediaType)

/-- The steps before a builder is turned to OCI for the first time. -/
def untilOci (steps : List Step) : List Step :=
  steps.takeWhile fun step => !step.isOci

/-- The steps from the first turn to OCI on. -/
def fromOci (steps : List Step) : List Step :=
  steps.dropWhile fun step => !step.isOci

/-- The manifest that some steps ask for when contents and blobs have the OCI types. -/
def ociManifest (steps : List Step) : Manifest where
  schemaVersion := 2
  mediaType := MediaType.ociManifest
  config := (lastConfig? MediaType.ociConfig steps).getD
    (.ofContent MediaType.ociConfig emptyConfig)
  layers := steps.filterMap (Step.layer? MediaType.ociLayer)

/-- The manifest that a builder makes which takes some steps, is turned to OCI and takes the later
ones: contents and blobs have the docker types first, and the OCI types then. A config that is
missing has the OCI type. -/
def turnedManifest (steps later : List Step) : Manifest where
  schemaVersion := 2
  mediaType := MediaType.ociManifest
  config := ((lastConfig? MediaType.ociConfig later).or
    (lastConfig? MediaType.dockerConfig steps)).getD (.ofContent MediaType.ociConfig emptyConfig)
  layers := steps.filterMap (Step.layer? MediaType.dockerLayer) ++
    later.filterMap (Step.layer? MediaType.ociLayer)

@[simp]
theorem lastConfig?_nil (mediaType : String) : lastConfig? mediaType [] = none := rfl

theorem decidingStep?_append (steps later : List Step) :
    decidingStep? (steps ++ later) = (decidingStep? later).or (decidingStep? steps) := by
  rw [decidingStep?, List.reverse_append, List.find?_append]
  rfl

/-- The step that decides on the config sets one. -/
theorem isSome_lastConfig? (mediaType : String) (steps : List Step) :
    (lastConfig? mediaType steps).isSome = (decidingStep? steps).isSome := by
  rw [lastConfig?]
  cases hdecides : decidingStep? steps with
  | none => rfl
  | some step =>
    rw [Option.bind_some, Step.isSome_config?]
    exact List.find?_some hdecides

/-- Later configs stand in place of earlier ones. -/
theorem lastConfig?_append (mediaType : String) (steps later : List Step) :
    lastConfig? mediaType (steps ++ later) =
      (lastConfig? mediaType later).or (lastConfig? mediaType steps) := by
  have hlater := isSome_lastConfig? mediaType later
  rw [lastConfig?, decidingStep?_append]
  cases hdecides : decidingStep? later with
  | none => simp [lastConfig?, hdecides]
  | some step =>
    rw [hdecides] at hlater
    rw [Option.or_of_isSome hlater, lastConfig?, hdecides]
    rfl

theorem untilOci_append_fromOci (steps : List Step) : untilOci steps ++ fromOci steps = steps :=
  List.takeWhile_append_dropWhile

theorem oci_not_mem_untilOci (steps : List Step) : .oci ∉ untilOci steps := fun hmem =>
  absurd (List.all_eq_true.1 List.all_takeWhile _ hmem) (by simp [Step.isOci])

/-- Where a builder is turned to OCI at all, the steps from then on begin with the turn. -/
theorem exists_fromOci_eq {steps : List Step} (h : .oci ∈ steps) :
    ∃ rest, fromOci steps = .oci :: rest := by
  cases hfrom : fromOci steps with
  | nil =>
    have huntil := untilOci_append_fromOci steps
    rw [hfrom, List.append_nil] at huntil
    rw [← huntil] at h
    exact absurd h (oci_not_mem_untilOci steps)
  | cons first rest =>
    have hfirst := List.head?_dropWhile_not (fun step : Step => !step.isOci) steps
    rw [show steps.dropWhile (fun step => !step.isOci) = first :: rest from hfrom] at hfirst
    obtain rfl : first = .oci := Step.isOci_eq_true_iff.1 (by simpa using hfirst)
    exact ⟨rest, rfl⟩

/-! ### What steps add -/

/-- The types that a builder gives are those of OCI. -/
structure IsOci (builder : ManifestBuilder) : Prop where
  /-- The type of the manifest. -/
  mediaType : builder.mediaType = MediaType.ociManifest
  /-- The type of contents. -/
  configMediaType : builder.configMediaType = MediaType.ociConfig
  /-- The type of blobs. -/
  layerMediaType : builder.layerMediaType = MediaType.ociLayer

/-- A builder with what some steps ask for, under the types that it has. -/
def gather (builder : ManifestBuilder) (steps : List Step) : ManifestBuilder :=
  { builder with
    config := (lastConfig? builder.configMediaType steps).or builder.config
    layers := builder.layers ++ steps.filterMap (Step.layer? builder.layerMediaType) }

@[simp]
theorem gather_nil (builder : ManifestBuilder) : builder.gather [] = builder := by
  simp [gather]

theorem gather_append (builder : ManifestBuilder) (steps later : List Step) :
    builder.gather (steps ++ later) = (builder.gather steps).gather later := by
  simp [gather, lastConfig?_append, Option.or_assoc]

/-- A step adds what it asks for, unless it changes the types. -/
theorem step_eq_gather {builder : ManifestBuilder} {step : Step}
    (h : step = .oci → builder.IsOci) : builder.step step = builder.gather [step] := by
  cases step with
  | oci =>
    -- the types are what they are turned to
    obtain ⟨hmanifest, hconfig, hlayer⟩ := h rfl
    obtain ⟨_, _, _, _, _⟩ := builder
    subst hmanifest hconfig hlayer
    simp [ManifestBuilder.step, gather, lastConfig?, decidingStep?, Step.setsConfig, Step.layer?]
  | _ =>
    -- what is set or added has the type that the builder gives it now
    simp [ManifestBuilder.step, gather, lastConfig?, decidingStep?, Step.setsConfig, Step.layer?,
      Step.config?]

/-- Steps add what they ask for, if the builder is not turned or was turned before. -/
theorem foldl_step_eq_gather {builder : ManifestBuilder} {steps : List Step}
    (h : .oci ∈ steps → builder.IsOci) : steps.foldl step builder = builder.gather steps := by
  induction steps generalizing builder with
  | nil => simp
  | cons first steps ih =>
    have hfirst : builder.step first = builder.gather [first] :=
      step_eq_gather fun heq => h (heq ▸ List.mem_cons_self)
    -- gathering leaves the types as they are
    have hrest : .oci ∈ steps → (builder.gather [first]).IsOci := by
      intro hmem
      obtain ⟨hmanifest, hconfig, hlayer⟩ := h (List.mem_cons_of_mem _ hmem)
      exact ⟨hmanifest, hconfig, hlayer⟩
    rw [List.foldl_cons, hfirst, ih hrest, ← gather_append, List.singleton_append]

/-! ### Turned builders -/

/-- What is given to a builder before the first turn has the docker types, and the rest has the OCI
types. -/
theorem ofSteps_of_mem_oci {steps : List Step} (h : .oci ∈ steps) :
    ofSteps steps = turnedManifest (untilOci steps) (fromOci steps) := by
  obtain ⟨rest, hrest⟩ := exists_fromOci_eq h
  have huntil : (untilOci steps).foldl step {} = gather {} (untilOci steps) :=
    foldl_step_eq_gather fun hmem => absurd hmem (oci_not_mem_untilOci steps)
  have hturned : ((gather {} (untilOci steps)).step .oci).IsOci := ⟨rfl, rfl, rfl⟩
  -- the first turn asks for nothing, so that it may be counted among the steps behind it
  have hfrom : (fromOci steps).foldl step (gather {} (untilOci steps)) =
      ((gather {} (untilOci steps)).step .oci).gather (fromOci steps) := by
    rw [hrest, List.foldl_cons, foldl_step_eq_gather fun _ => hturned, ← List.singleton_append,
      gather_append, ← step_eq_gather fun _ => hturned]
    rfl
  have hsteps : steps.foldl step {} =
      ((gather {} (untilOci steps)).step .oci).gather (fromOci steps) := by
    rw [← hfrom, ← huntil, ← List.foldl_append, untilOci_append_fromOci]
  rw [ofSteps, hsteps]
  simp [turnedManifest, build, gather, ManifestBuilder.step]

/-- Steps add the same layers under two types of blobs just when they add no blob. -/
theorem filterMap_layer?_eq_iff {mediaType other : String} (hne : mediaType ≠ other)
    (steps : List Step) :
    steps.filterMap (Step.layer? mediaType) = steps.filterMap (Step.layer? other) ↔
      ∀ blob, .layerBlob blob ∉ steps := by
  induction steps with
  | nil => simp
  | cons first steps ih =>
    cases first with
    | layerBlob blob =>
      refine iff_of_false (fun heq => ?_) fun hnone => hnone blob List.mem_cons_self
      simp [Step.layer?, hne] at heq
    | _ => simp [List.filterMap_cons, Step.layer?, ih]

/-- Steps set the same config under two types of contents just when it is not decided by a
content. -/
theorem getD_lastConfig?_eq_iff {mediaType other : String} (hne : mediaType ≠ other)
    (steps : List Step) (fallback : Descriptor) :
    (lastConfig? mediaType steps).getD fallback = (lastConfig? other steps).getD fallback ↔
      ∀ content, decidingStep? steps ≠ some (.config content) := by
  simp only [lastConfig?]
  cases hdecides : decidingStep? steps with
  | none => simp
  | some step =>
    cases step <;> simp [Step.config?, Descriptor.ofContent, hne]

theorem decidingStep?_filter (steps : List Step) :
    decidingStep? (steps.filter (!·.isOci)) = decidingStep? steps := by
  -- a turn sets no config
  have hsets (step : Step) :
      decide ((!step.isOci) = true ∧ step.setsConfig = true) = step.setsConfig := by
    cases step <;> rfl
  simp only [decidingStep?, ← List.filter_reverse, List.find?_filter, hsets]

theorem filterMap_layer?_filter (mediaType : String) (steps : List Step) :
    (steps.filter (!·.isOci)).filterMap (Step.layer? mediaType) =
      steps.filterMap (Step.layer? mediaType) := by
  -- a turn adds no layer
  have hadds (step : Step) :
      (if (!step.isOci) = true then step.layer? mediaType else none) = step.layer? mediaType := by
    cases step <;> rfl
  simp only [List.filterMap_filter, hadds]

/-- What steps ask for does not depend on where the builder is turned. -/
theorem ociManifest_of_filter_eq {steps others : List Step}
    (h : others.filter (!·.isOci) = steps.filter (!·.isOci)) :
    ociManifest others = ociManifest steps := by
  have hdecides : decidingStep? others = decidingStep? steps := by
    rw [← decidingStep?_filter, h, decidingStep?_filter]
  have hlayers : others.filterMap (Step.layer? MediaType.ociLayer) =
      steps.filterMap (Step.layer? MediaType.ociLayer) := by
    rw [← filterMap_layer?_filter, h, filterMap_layer?_filter]
  rw [ociManifest, ociManifest, lastConfig?, lastConfig?, hdecides, hlayers]

/-- A turned builder makes what the steps ask for when it was given no blob before, and no content
that decides on the config. -/
theorem turnedManifest_eq_ociManifest_iff (steps later : List Step) :
    turnedManifest steps later = ociManifest (steps ++ later) ↔
      (∀ blob, .layerBlob blob ∉ steps) ∧
        (decidingStep? later = none → ∀ content, decidingStep? steps ≠ some (.config content)) := by
  rw [turnedManifest, ociManifest, lastConfig?_append, List.filterMap_append]
  simp only [Manifest.mk.injEq, true_and, List.append_cancel_right_eq]
  rw [and_comm, filterMap_layer?_eq_iff (by decide)]
  refine and_congr_right' ?_
  have hlater := isSome_lastConfig? MediaType.ociConfig later
  cases hdecides : decidingStep? later with
  | none =>
    -- the steps before the turn decide, or none does
    rw [hdecides, Option.isSome_none, Option.isSome_eq_false_iff] at hlater
    simp only [Option.isNone_iff_eq_none.1 hlater, Option.none_or, forall_const]
    exact getD_lastConfig?_eq_iff (by decide) _ _
  | some step =>
    rw [hdecides] at hlater
    simp [Option.or_of_isSome hlater]

/-- What a builder makes that is turned to OCI at some time. It is what the steps ask for, which is
the same wherever they turn the builder, just when no blob comes before the first turn, and no
content that comes before it decides on the config. -/
theorem ofSteps_eq_ociManifest_iff {steps : List Step} (h : .oci ∈ steps) :
    ofSteps steps = turnedManifest (untilOci steps) (fromOci steps) ∧
      (ofSteps steps = ociManifest steps ↔
        (∀ blob, .layerBlob blob ∉ untilOci steps) ∧
          (decidingStep? (fromOci steps) = none →
            ∀ content, decidingStep? (untilOci steps) ≠ some (.config content))) ∧
      ∀ others : List Step, others.filter (!·.isOci) = steps.filter (!·.isOci) →
        ociManifest others = ociManifest steps := by
  refine ⟨ofSteps_of_mem_oci h, ?_, fun others => ociManifest_of_filter_eq⟩
  have hiff := turnedManifest_eq_ociManifest_iff (untilOci steps) (fromOci steps)
  rwa [untilOci_append_fromOci, ← ofSteps_of_mem_oci h] at hiff

section Steps

/-- A blob of three octets. -/
def someBlob : Layer := ⟨[1, 2, 3], ⟨"sha512", "ab"⟩, "noise"⟩

/-- The descriptors of a config and a layer before the first turn, and a blob between two turns. -/
def turnedInTime : List Step :=
  [.configDescriptor ⟨"config", "sha256:config", 7, none⟩,
    .layer ⟨"layer", "sha256:layer", 5, none⟩, .oci, .layerBlob someBlob, .oci]

/-- The descriptors are as given, and the blob has the OCI type. -/
theorem ofSteps_eq_ociManifest_iff_turnedInTime :
    .oci ∈ turnedInTime ∧ ofSteps turnedInTime = ociManifest turnedInTime ∧
      ofSteps turnedInTime = ⟨2, MediaType.ociManifest, ⟨"config", "sha256:config", 7, none⟩,
        [⟨"layer", "sha256:layer", 5, none⟩, ⟨MediaType.ociLayer, "sha512:ab", 3, none⟩]⟩ := by
  have hoci : .oci ∈ turnedInTime := by simp [turnedInTime]
  obtain ⟨hbuilt, hiff, -⟩ := ofSteps_eq_ociManifest_iff hoci
  refine ⟨hoci, hiff.2 ⟨fun blob hmem => ?_, fun _ content hdecides => ?_⟩, hbuilt.trans rfl⟩
  · simp [turnedInTime, untilOci, Step.isOci] at hmem
  · cases hdecides

/-- A content and a blob before the only turn have docker types in an OCI manifest, and OCI types
behind it. -/
theorem ofSteps_mixed :
    let late := ofSteps [.config [], .layerBlob someBlob, .oci]
    let early := ofSteps [.oci, .config [], .layerBlob someBlob]
    (late.mediaType = MediaType.ociManifest ∧ late.config.mediaType = MediaType.dockerConfig ∧
        late.layers.map Descriptor.mediaType = [MediaType.dockerLayer]) ∧
      (early.mediaType = MediaType.ociManifest ∧ early.config.mediaType = MediaType.ociConfig ∧
        early.layers.map Descriptor.mediaType = [MediaType.ociLayer]) ∧
      late ≠ early := by
  intro late early
  refine ⟨⟨rfl, rfl, rfl⟩, ⟨rfl, rfl, rfl⟩, fun heq => ?_⟩
  have htypes : MediaType.dockerConfig = MediaType.ociConfig :=
    congrArg (fun manifest : Manifest => manifest.config.mediaType) heq
  exact absurd htypes (by decide)

end Steps

end ManifestBuilder

namespace ManifestListBuilder

/-- The manifest that a step lists. -/
def Step.manifest? : Step → Option Descriptor
  | oci => none
  | manifest mediaType payload architecture os =>
    some { Descriptor.ofContent mediaType payload with platform := some ⟨architecture, os, none⟩ }
  | entry descriptor => some descriptor

/-- Steps list their manifests, and turn the list to an index or leave its type. -/
theorem foldl_step_eq (steps : List Step) (builder : ManifestListBuilder) :
    (steps.foldl step builder).manifests =
        builder.manifests ++ steps.filterMap Step.manifest? ∧
      ((.oci ∈ steps ∨ builder.mediaType = MediaType.ociIndex) →
        (steps.foldl step builder).mediaType = MediaType.ociIndex) := by
  induction steps generalizing builder with
  | nil => simp
  | cons first steps ih =>
    obtain ⟨hmanifests, htype⟩ := ih (builder.step first)
    rw [List.foldl_cons, hmanifests, List.filterMap_cons]
    cases first with
    | oci => exact ⟨rfl, fun _ => htype (Or.inr rfl)⟩
    | manifest => simpa [step, Step.manifest?] using htype
    | entry => simpa [step, Step.manifest?] using htype

/-- A list that is turned to OCI is an index of the same manifests, wherever it is turned. -/
theorem ofSteps_of_mem_oci {steps : List Step} (h : .oci ∈ steps) :
    ofSteps steps = {
      schemaVersion := 2
      mediaType := MediaType.ociIndex
      manifests := steps.filterMap Step.manifest? } := by
  obtain ⟨hmanifests, htype⟩ := foldl_step_eq steps {}
  rw [ofSteps, build, hmanifests, htype (Or.inl h)]
  rfl

end ManifestListBuilder

end RegistryBench
