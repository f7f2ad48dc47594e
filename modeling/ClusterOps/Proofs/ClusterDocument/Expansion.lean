import ClusterOps.Proofs.ClusterDocument.Sound
import ClusterOps.Proofs.Facility.Coverage
import ClusterOps.Reconcile.Cluster

/-
The declaration of a document is expanded as a whole or not at all. An expansion that
succeeds leaves only facilities of the catalog, and expanding again changes nothing; one
that is refused names the first unknown facility and leaves the document as it was. Along
any history nothing but the declaration changes, and what is written of a document at any
point reads back as that document (`ofEntries_toValue`).

The history is followed step by step: `Changes` says what one step makes of a document,
`follows_after` carries it along. A reconciliation expands the declaration it is
given by the same rule before it asks for anything, so it leaves a document as expanding
it does (`after_atomic`).
-/

namespace ClusterOps

namespace Facility

variable {declared catalog names : List String}

/-- What a declaration expands to. It names nothing that the catalog lacks, nor a wildcard if the
catalog has none, and stays as it is when it is expanded again. -/
structure Expansion (declared catalog names : List String) : Prop where
  standsFor : StandsFor declared catalog (.ok names)
  known : ∀ n ∈ names, n ∈ catalog
  tame : (∀ n ∈ catalog, n ∉ wildcards) → ∀ n ∈ names, n ∉ wildcards
  stable : expand names catalog = .ok names

theorem expansion_of_expand (h : expand declared catalog = .ok names) :
    Expansion declared catalog names where
  standsFor := expand_eq_iff.1 h
  known _ hn := mem_of_expand h hn
  tame tame n hn := tame n (mem_of_expand h hn)
  stable := expand_expanded h

theorem supported_tame : ∀ n ∈ supported, n ∉ wildcards := by decide

end Facility

open Facility (Expansion StandsFor supported wildcards)

namespace ClusterDocument

/-! ## Reading back what was written -/

theorem nameAt_text {name : String} (place : List String) (named : 1 ≤ name.length)
    (short : name.length ≤ maxNameLength) : nameAt place (.text name) = .ok name := by
  have given : ¬ name.isEmpty := by
    intro empty
    obtain rfl : name = "" := by simpa using empty
    simp at named
  simp only [nameAt, textAt]
  rw [if_neg given, if_neg (by omega)]

theorem tagsFrom_written (place : List String) (tags : List (String × String)) :
    tagsFrom place ((tags.map fun (k, v) => (k, Value.text v)).map fun (k, v) => (.text k, v))
      = .ok tags := by
  induction tags with
  | nil => rfl
  | cons tag tags ih =>
    simp only [List.map_cons, tagsFrom, ih]
    rfl

theorem namesFrom_written (place : List String) (index : Nat) (names : List String) :
    namesFrom place index (names.map .text) = .ok names := by
  induction names generalizing index with
  | nil => rfl
  | cons name names ih =>
    simp only [List.map_cons, namesFrom, ih]
    rfl

theorem versionAt_written (place : List String) (version : Option String) :
    versionAt place (.ofText? version) = .ok version := by
  cases version <;> rfl

theorem identityAt_written (place : List String) {i : Identity} (named : 1 ≤ i.name.length)
    (short : i.name.length ≤ maxNameLength) :
    identityAt place (.object [
      ("name", .text i.name),
      ("region", .text i.region),
      ("version", .ofText? i.version),
      ("tags", .object (i.tags.map fun (k, v) => (k, .text v)))]) = .ok i := by
  have tags := tagsFrom_written (place ++ ["tags"]) i.tags
  simp only [Value.object, List.map_cons, List.map_nil, identityAt, identityFrom, optional, field?,
    Value.find?, String.reduceBEq, if_true, Bool.false_eq_true, if_false, beq_self_eq_true,
    nameAt_text _ named short, textAt, versionAt_written, tagsAt] at tags ⊢
  rw [tags]
  rfl

theorem loggingAt_written (place : List String) (names : List String) :
    loggingAt place (.object [("clusterLogging", .object [("enableTypes", .texts names)])])
      = .ok (some names) := by
  simp only [Value.object, List.map_cons, List.map_nil, loggingAt, optional, field?, Value.find?,
    beq_self_eq_true, if_true, facilitiesAt, Value.texts, namesAt, namesFrom_written]
  rfl

/-- What is written of a sound document reads back as that document. -/
theorem ofEntries_toValue {d : ClusterDocument} (h : d.Sound) :
    ofEntries d.toValue.entries = .ok d := by
  obtain ⟨version, kind, i, enableTypes⟩ := d
  obtain rfl : kind = onlyKind := h.kind
  have identity := identityAt_written ["metadata"] h.named h.short
  have kind : kindAt ["kind"] (.text onlyKind) = .ok onlyKind := by decide
  simp only [toValue, Value.object, List.map_cons, List.map_nil, Value.entries, ofEntries, optional,
    field?, Value.find?, String.reduceBEq, if_true, Bool.false_eq_true, if_false,
    beq_self_eq_true, List.nil_append, textAt, kind] at identity ⊢
  rw [identity]
  cases enableTypes with
  | none => rfl
  | some names =>
    have logging := loggingAt_written ["cloudWatch"] names
    simp only [Value.object, List.map_cons, List.map_nil] at logging
    dsimp only
    rw [logging]
    rfl

/-! ## Histories -/

/-- A document that differs from another one at most in what it declares. -/
structure Redeclares (d d' : ClusterDocument) : Prop where
  apiVersion : d'.apiVersion = d.apiVersion
  kind : d'.kind = d.kind
  identity : d'.identity = d.identity

theorem Redeclares.refl (d : ClusterDocument) : d.Redeclares d := ⟨rfl, rfl, rfl⟩

theorem Redeclares.trans {d d' d'' : ClusterDocument} (h : d.Redeclares d')
    (h' : d'.Redeclares d'') : d.Redeclares d'' :=
  ⟨h'.apiVersion.trans h.apiVersion, h'.kind.trans h.kind, h'.identity.trans h.identity⟩

theorem Redeclares.sound {d d' : ClusterDocument} (h : d.Redeclares d') (sound : d.Sound) :
    d'.Sound := by
  refine ⟨h.kind.trans sound.kind, ?_, ?_⟩
  · rw [h.identity]
    exact sound.named
  · rw [h.identity]
    exact sound.short

/-- What a step comes to, and the document that it leaves. -/
inductive Changes (d : ClusterDocument) :
    Step → Except Facility.Unknown Unit → ClusterDocument → Prop
  | ensure : Changes d .ensure (.ok ()) { d with enableTypes := some (d.enableTypes.getD []) }
  | append {names : List String} :
      Changes d (.append names) (.ok ())
        { d with enableTypes := some (d.enableTypes.getD [] ++ names) }
  | expanded {names : List String} {d' : ClusterDocument} :
      d' = { d with enableTypes := some names } → Expansion d.declared supported names →
      (∀ n ∈ names, n ∉ wildcards) → d'.expand = (.ok (), d') → Changes d .expand (.ok ()) d'
  | refused {u : Facility.Unknown} :
      StandsFor d.declared supported (.error u) → Changes d .expand (.error u) d

theorem expand_of_ok {d : ClusterDocument} {names : List String}
    (h : Facility.expand d.declared supported = .ok names) :
    d.expand = (.ok (), { d with enableTypes := some names }) := by
  simp only [expand, h]

/-- A document whose declaration is refused has a section on logging, and is left as it is. -/
theorem expand_of_error {d : ClusterDocument} {u : Facility.Unknown}
    (h : Facility.expand d.declared supported = .error u) : d.expand = (.error u, d) := by
  have ensured : d.ensureLogging = d := by
    obtain ⟨version, kind, identity, enableTypes⟩ := d
    cases enableTypes with
    | none => cases h
    | some names => rfl
  simp only [expand, h, ensured]

theorem changes_expand (d : ClusterDocument) : Changes d .expand d.expand.1 d.expand.2 := by
  cases expands : Facility.expand d.declared supported with
  | error u =>
    rw [expand_of_error expands]
    exact .refused (Facility.expand_eq_iff.1 expands)
  | ok names =>
    have expansion := Facility.expansion_of_expand expands
    rw [expand_of_ok expands]
    exact .expanded rfl expansion (expansion.tame Facility.supported_tame)
      (expand_of_ok expansion.stable)

theorem Changes.redeclares {d d' : ClusterDocument} {step : Step}
    {outcome : Except Facility.Unknown Unit} (h : Changes d step outcome d') :
    d.Redeclares d' := by
  cases h with
  | ensure | append => exact ⟨rfl, rfl, rfl⟩
  | expanded same =>
    subst same
    exact ⟨rfl, rfl, rfl⟩
  | refused => exact .refl d

/-- The points of a history: each step is made of the document that the one before it left. -/
inductive Follows : ClusterDocument → List Step → List Point → Prop
  | start {d : ClusterDocument} : Follows d [] []
  | step {d : ClusterDocument} {step : Step} {p : Point} {steps : List Step} {points : List Point} :
      Changes d step p.outcome p.document → Follows p.document steps points →
      Follows d (step :: steps) (p :: points)

theorem follows_after (d : ClusterDocument) (edition : Nat) (steps : List Step) :
    Follows d steps (after d edition steps) := by
  induction steps generalizing d edition with
  | nil => exact .start
  | cons step steps ih =>
    cases step with
    | ensure => exact .step .ensure (ih _ _)
    | append names => exact .step .append (ih _ _)
    | expand =>
      have change := changes_expand d
      rw [after]
      split
      case h_1 d' same | h_2 u d' same =>
        rw [same] at change
        exact .step change (ih _ _)

theorem Follows.redeclares {d : ClusterDocument} {steps : List Step} {points : List Point}
    (h : Follows d steps points) : ∀ p ∈ points, d.Redeclares p.document := by
  induction h with
  | start => simp
  | step change _ ih =>
    have here := change.redeclares
    intro q hq
    rcases List.mem_cons.1 hq with rfl | later
    · exact here
    · exact here.trans (ih q later)

end ClusterDocument

/-! ## Reconciling -/

namespace Reconcile

variable {W : Type}

/-- What a reconciliation makes of the declaration that it is given. An unknown facility leaves all
as it was: the declaration, and the session with all that was asked of anyone. -/
inductive Expands (catalog declared : List String) (s : Session W) : Report × Session W → Prop
  | expanded {ran : Report × Session W} : Expansion declared catalog ran.1.declared →
      (∀ (p : Parties W) (plan : Bool) (t : Session W),
        (run p catalog plan ran.1.declared t).1.declared = ran.1.declared) →
      Expands catalog declared s ran
  | refused {u : Facility.Unknown} : StandsFor declared catalog (.error u) →
      Expands catalog declared s (⟨.failed (.unknownFacility u.name), declared, []⟩, s)

theorem declared_move (p : Parties W) (catalog desired : List String) (plan : Bool)
    (observed : Facility.Observed) (s : Session W) :
    (move p catalog desired plan observed s).1.declared = desired := by
  unfold move
  dsimp only
  split <;> rfl

theorem declared_run {catalog declared names : List String} (p : Parties W) (plan : Bool)
    (s : Session W) (h : Facility.expand declared catalog = .ok names) :
    (run p catalog plan declared s).1.declared = names := by
  simp only [run, h]
  split
  case h_1 => exact declared_move p catalog names plan _ _
  case h_2 | h_3 | h_4 => rfl

theorem expands_run (p : Parties W) (catalog declared : List String) (plan : Bool)
    (s : Session W) : Expands catalog declared s (run p catalog plan declared s) := by
  cases expands : Facility.expand declared catalog with
  | error u =>
    rw [run_unknown p plan expands]
    exact .refused (Facility.expand_eq_iff.1 expands)
  | ok names =>
    have expansion := Facility.expansion_of_expand expands
    have declares := declared_run p plan s expands
    refine .expanded (declares ▸ expansion) fun p plan t => ?_
    rw [declares]
    exact declared_run p plan t expansion.stable

/-- Reconciling leaves the document as expanding it does. -/
theorem document_cluster (p : Parties W) (plan : Bool) (d : ClusterDocument) (s : Session W) :
    (cluster p plan d s).2.1 = d.expand.2 := by
  have redeclared : (cluster p plan d s).2.1
      = { d with enableTypes := some (run p supported plan d.declared s).1.declared } := by
    unfold cluster
    dsimp only
    split <;> rfl
  rw [redeclared]
  cases expands : Facility.expand d.declared supported with
  | error u =>
    simp only [run_unknown p plan expands, ClusterDocument.expand, expands]
    rfl
  | ok names => rw [declared_run p plan s expands, ClusterDocument.expand_of_ok expands]

end Reconcile

/-- **A declaration is expanded as a whole or not at all.** In any history of a sound document, as
every document is that is read (`sound_of_ofEntries`), each step comes to what `Changes` says of it.
At every point the document differs from the first one at most in its declaration, and what is
written of it reads back as it. A reconciliation does to a declaration what expanding does, and it
asks nobody anything if it refuses. -/
theorem ClusterDocument.after_atomic {d : ClusterDocument} (sound : d.Sound) (steps : List Step)
    (edition : Nat) :
    Follows d steps (after d edition steps) ∧
    (∀ d' ∈ d :: (after d edition steps).map Point.document,
      d.Redeclares d' ∧ ofEntries d'.toValue.entries = .ok d') ∧
    ∀ {W : Type} (p : Reconcile.Parties W) (plan : Bool) (s : Session W),
      (∀ catalog declared, Reconcile.Expands catalog declared s
        (Reconcile.run p catalog plan declared s)) ∧
      ∀ d', (Reconcile.cluster p plan d' s).2.1 = d'.expand.2 := by
  have follows := follows_after d edition steps
  refine ⟨follows, fun d' hd' => ?_, fun p plan s => ⟨fun catalog declared => ?_, fun d' => ?_⟩⟩
  · have kept : d.Redeclares d' := by
      rcases List.mem_cons.1 hd' with rfl | later
      · exact .refl _
      · obtain ⟨p, hp, rfl⟩ := List.mem_map.1 later
        exact follows.redeclares p hp
    exact ⟨kept, ofEntries_toValue (kept.sound sound)⟩
  · exact Reconcile.expands_run p catalog declared plan s
  · exact Reconcile.document_cluster p plan d' s

/-- A document without a section on logging: a wildcard is expanded, and an unknown facility behind
it is refused. -/
theorem ClusterDocument.after_atomic_refused :
    let d : ClusterDocument := ⟨"v9", onlyKind, ⟨"demo", "", none, [("team", "a")]⟩, none⟩
    let steps : List Step := [.append ["audit", "all"], .expand, .append ["api", "nope", "zip"],
      .expand, .ensure]
    let points := after d 0 steps
    d.Sound ∧ Follows d steps points ∧
      points.map (fun p => (p.outcome.isOk, p.document.declared))
        = [(true, ["audit", "all"]), (true, supported), (true, supported ++ ["api", "nope", "zip"]),
          (false, supported ++ ["api", "nope", "zip"]),
          (true, supported ++ ["api", "nope", "zip"])] ∧
      ∀ p ∈ points, ofEntries p.document.toValue.entries = .ok p.document := by
  intro d steps points
  have sound : d.Sound := ⟨rfl, by decide, by decide⟩
  obtain ⟨follows, kept, -⟩ := after_atomic sound steps 0
  refine ⟨sound, follows, by decide +kernel, fun p hp => (kept p.document ?_).2⟩
  exact List.mem_cons_of_mem _ (List.mem_map_of_mem hp)

end ClusterOps
