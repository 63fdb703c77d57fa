import Mathlib.Data.List.Nodup
import SelectionGen.Proofs.TypeGraph
import SelectionGen.Proofs.Descent

/-! The registry as the account of what was given out. A build only appends to the registry, and it appends
one entry for each projection that it gives out, though in another order: a class is registered before
the types below its own are followed, and its projection is given out behind theirs. Every accessor
that goes on in a class finds that class registered for the type its field leads to. -/
namespace SelectionGen.Projection

open Sdl Schema

/-- The entry that accounts for a projection. -/
def entry (projection : SelectionGen.Projection) : String × String :=
  (projection.name, projection.sourceType)

/-- Entries for classes that a registry does not hold, each class once. -/
structure Fresh (registry added : Registry) : Prop where
  distinct : (added.map Prod.fst).Nodup
  absent : ∀ entry ∈ added, registry.lookup entry.1 = none

namespace Registry

variable {registry added : Registry} {name typeName : String}

theorem lookup_append (known : registry.lookup name = some typeName) :
    (registry ++ added).lookup name = some typeName := by
  simp [List.lookup_append, known]

theorem mem_of_lookup (known : registry.lookup name = some typeName) :
    (name, typeName) ∈ registry := by
  obtain ⟨before, behind, rfl, _⟩ := List.lookup_eq_some_iff.mp known
  simp

/-- What is not found is not among the keys. -/
theorem lookup_eq_none_iff : registry.lookup name = none ↔ name ∉ registry.map Prod.fst := by
  rw [List.lookup_eq_none_iff]
  constructor
  · rintro missing inKeys
    obtain ⟨entry, member, rfl⟩ := List.mem_map.mp inKeys
    simpa using missing entry member
  · intro missing entry member
    rw [bne_iff_ne]
    rintro rfl
    exact missing (List.mem_map_of_mem member)

theorem absent_of_append (absent : (registry ++ added).lookup name = none) :
    registry.lookup name = none := by
  rw [List.lookup_append] at absent
  exact (Option.or_eq_none_iff.mp absent).1

/-- What is registered was so before something was appended, or is among what was appended. -/
theorem lookup_append_cases (known : (registry ++ added).lookup name = some typeName) :
    registry.lookup name = some typeName ∨ (name, typeName) ∈ added := by
  rw [List.lookup_append] at known
  rcases Option.or_eq_some_iff.mp known with old | ⟨_, new⟩
  · exact .inl old
  · exact .inr (mem_of_lookup new)

end Registry

namespace Fresh

variable {registry front back : Registry}

theorem nil : Fresh registry [] := ⟨List.nodup_nil, by simp⟩

theorem single (entry : String × String) (absent : registry.lookup entry.1 = none) :
    Fresh registry [entry] := ⟨by simp, by simpa using absent⟩

theorem append (first : Fresh registry front) (second : Fresh (registry ++ front) back) :
    Fresh registry (front ++ back) := by
  have absentBoth : ∀ entry ∈ back, registry.lookup entry.1 = none ∧ front.lookup entry.1 = none := by
    intro entry member
    simpa [List.lookup_append] using second.absent entry member
  refine ⟨?_, ?_⟩
  · rw [List.map_append, List.nodup_append]
    refine ⟨first.distinct, second.distinct, ?_⟩
    rintro key inFront other inBack rfl
    obtain ⟨entry, entryBack, rfl⟩ := List.mem_map.mp inBack
    exact Registry.lookup_eq_none_iff.mp (absentBoth entry entryBack).2 inFront
  · intro entry member
    rcases List.mem_append.mp member with inFront | inBack
    · exact first.absent entry inFront
    · exact (absentBoth entry inBack).1

/-- Together with new classes a registry holds each class once if it did so before. -/
theorem keys_nodup (fresh : Fresh registry front) (distinct : (registry.map Prod.fst).Nodup) :
    ((registry ++ front).map Prod.fst).Nodup := by
  rw [List.map_append, List.nodup_append]
  refine ⟨distinct, fresh.distinct, ?_⟩
  rintro key old other new rfl
  obtain ⟨entry, member, rfl⟩ := List.mem_map.mp new
  exact Registry.lookup_eq_none_iff.mp (fresh.absent entry member) old

end Fresh

namespace Context

variable {context : Context} {targets given : List Target} {registry final : Registry}
  {ending : Option Clash} {target next : Target}

/-- What a descent adds to the registry is new and, unless a clash broke the descent off, exactly what it
gives out. -/
theorem Descent.accounts (descent : context.Descent targets registry given final ending) :
    ∃ added, final = registry ++ added ∧ Fresh registry added ∧
      (ending = none → (given.map Target.entry).Perm added) := by
  induction descent with
  | done => exact ⟨[], by simp, .nil, by simp⟩
  | met _ _ ih => exact ih
  | refused => exact ⟨[], by simp, .nil, by simp⟩
  | @broken target registry _ _ _ _ fresh _ ih =>
    obtain ⟨added, rfl, new, _⟩ := ih
    exact ⟨target.entry :: added, by simp, (Fresh.single target.entry fresh).append new, by simp⟩
  | @finished target registry below _ _ after _ _ fresh _ _ ihInside ihRest =>
    obtain ⟨inside, rfl, newInside, listedInside⟩ := ihInside
    obtain ⟨behind, rfl, newBehind, listedBehind⟩ := ihRest
    refine ⟨target.entry :: (inside ++ behind), by simp, ?_, ?_⟩
    · have new := (Fresh.single target.entry fresh).append (newInside.append newBehind)
      simpa using new
    · intro whole
      have listed := (listedInside rfl).append (listedBehind whole)
      calc (below ++ target :: after).map Target.entry
          = below.map Target.entry ++ target.entry :: after.map Target.entry := by simp
        _ |>.Perm (target.entry :: (below.map Target.entry ++ after.map Target.entry)) :=
            List.perm_middle
        _ |>.Perm (target.entry :: (inside ++ behind)) := listed.cons _

theorem Descent.keeps {name typeName : String}
    (descent : context.Descent targets registry given final ending)
    (known : registry.lookup name = some typeName) : final.lookup name = some typeName := by
  obtain ⟨added, rfl⟩ := descent.grows
  exact Registry.lookup_append known

/-- A type whose class was new is registered for good before anything below it is followed. -/
private theorem registered_inside {middle : Registry} {below : List Target}
    (fresh : registry.lookup target.className = none)
    (inside : context.Descent (context.targets target) (registry ++ [target.entry]) below middle ending) :
    middle.lookup target.className = some target.typeName :=
  inside.keeps (by simp [List.lookup_append, fresh, Target.entry])

/-- When no clash breaks a descent off, the types it follows are registered in the end. -/
theorem Descent.registers (descent : context.Descent targets registry given final ending)
    (whole : ending = none) :
    ∀ target ∈ targets, final.lookup target.className = some target.typeName := by
  induction descent with
  | done => simp
  | met known rest ih =>
    intro target member
    rcases List.mem_cons.mp member with rfl | later
    · exact rest.keeps known
    · exact ih whole target later
  | refused | broken => cases whole
  | finished fresh inside rest _ ih =>
    intro target member
    rcases List.mem_cons.mp member with rfl | later
    · exact rest.keeps (registered_inside fresh inside)
    · exact ih whole target later

/-- When no clash breaks a descent off, whatever the fields of a type given out lead to is registered. -/
theorem Descent.closes (descent : context.Descent targets registry given final ending)
    (whole : ending = none) :
    ∀ target ∈ given, ∀ next ∈ context.targets target,
      final.lookup next.className = some next.typeName := by
  induction descent with
  | done => simp
  | met _ _ ih => exact ih whole
  | refused | broken => cases whole
  | finished fresh inside rest ihInside ihRest =>
    intro target member next leads
    rcases List.mem_append.mp member with inBelow | fromHere
    · exact rest.keeps (ihInside rfl target inBelow next leads)
    rcases List.mem_cons.mp fromHere with rfl | inAfter
    · exact rest.keeps (inside.registers rfl next leads)
    · exact ihRest whole target inAfter next leads

/-- A build that shares its registry with others. -/
inductive Build
  | type (baseName : String) (position : Nat) (definition : TypeDefinition)
  | root (position : Nat) (definition : TypeDefinition)

/-- Where the type that a projection is made from stands, and the type: it is what a build is for, in the class that the
build asks for, or what references by its name lead to in the document. -/
inductive MadeFrom (context : Context) (builds : List Build) :
    SelectionGen.Projection → Nat → TypeDefinition → Prop
  | type (member : .type baseName position definition ∈ builds) :
      MadeFrom context builds (context.projectionOf (className baseName) position definition) position definition
  | root (member : .root position definition ∈ builds) :
      MadeFrom context builds (context.rootProjectionOf position definition) position definition
  | reference {target : Target} (resolves : context.Resolves target) :
      MadeFrom context builds (context.projection target) target.1 target.2

theorem MadeFrom.mono {builds more : List Build} {projection : SelectionGen.Projection} {position : Nat}
    {definition : TypeDefinition} (made : context.MadeFrom builds projection position definition)
    (included : builds ⊆ more) : context.MadeFrom more projection position definition := by
  cases made with
  | type member => exact .type (included member)
  | root member => exact .root (included member)
  | reference resolves => exact .reference resolves

/-- Each accessor of a projection that goes on in a class stands for a field of the very type the projection was
made from, and that class is known to be made for the type the field leads to. -/
def Refers (context : Context) (builds : List Build) (known : ClassRef → String → Prop)
    (projection : SelectionGen.Projection) : Prop :=
  ∃ position definition, context.MadeFrom builds projection position definition ∧
    ∀ accessor ∈ projection.accessors, ∀ sub, accessor.selector = .composite sub →
      ∃ resolved ∈ context.resolvedFields projection.isRoot position definition,
        ∃ target : Target, resolved.target? = some target ∧
          accessor.fieldName = resolved.field.name.text ∧ sub = context.clientClass target.name ∧
          known sub target.typeName

/-- A class is known by its entry in a registry. -/
def registeredIn (registry : Registry) (sub : ClassRef) (typeName : String) : Prop :=
  registry.lookup sub.name = some typeName

theorem Refers.mono {builds others : List Build} {known more : ClassRef → String → Prop}
    {projection : SelectionGen.Projection} (refers : context.Refers builds known projection)
    (included : builds ⊆ others)
    (wider : ∀ target : Target, known (context.clientClass target.name) target.typeName →
      more (context.clientClass target.name) target.typeName) :
    context.Refers others more projection := by
  obtain ⟨position, definition, made, each⟩ := refers
  refine ⟨position, definition, made.mono included, fun accessor member sub composite => ?_⟩
  obtain ⟨resolved, inFields, target, leads, named, rfl, holds⟩ := each accessor member sub composite
  exact ⟨resolved, inFields, target, leads, named, rfl, wider target holds⟩

theorem refers_projectionOf {builds : List Build} {name : String} {position : Nat} {definition : TypeDefinition}
    (made : context.MadeFrom builds (context.projectionOf name position definition) position definition)
    (registered : ∀ next ∈ context.targets (position, definition),
      registry.lookup next.className = some next.typeName) :
    context.Refers builds (registeredIn registry) (context.projectionOf name position definition) := by
  refine ⟨position, definition, made, fun accessor member sub composite => ?_⟩
  obtain ⟨resolved, inFields, target, leads, named, rfl⟩ := field_of_composite member composite
  exact ⟨resolved, inFields, target, leads, named, rfl,
    registered target (List.mem_filterMap.mpr ⟨resolved, inFields, leads⟩)⟩

theorem refers_rootProjectionOf {builds : List Build} {position : Nat} {definition : TypeDefinition}
    (member : .root position definition ∈ builds)
    (registered : ∀ next ∈ context.rootTargets position definition,
      registry.lookup next.className = some next.typeName) :
    context.Refers builds (registeredIn registry) (context.rootProjectionOf position definition) := by
  refine ⟨position, definition, .root member, fun accessor member sub composite => ?_⟩
  obtain ⟨resolved, inFields, target, leads, named, rfl⟩ := field_of_composite member composite
  have inFields := (List.mem_filter.mp inFields).1
  exact ⟨resolved, inFields, target, leads, named, rfl,
    registered target (List.mem_filterMap.mpr ⟨resolved, inFields, leads⟩)⟩

/-- What successful builds give out is what they add to the registry, and with the registry they leave
behind nothing that they give out refers to an unknown class. -/
structure Accounts (context : Context) (builds : List Build) (registry : Registry) (api : Api)
    (final added : Registry) : Prop where
  appended : final = registry ++ added
  fresh : Fresh registry added
  listed : (api.clientProjections.map entry).Perm added
  packaged : ∀ projection ∈ api.clientProjections,
    projection.package = context.settings.clientPackage
  refers : ∀ projection ∈ api.queryTypes ++ api.clientProjections,
    context.Refers builds (registeredIn final) projection

/-- Whatever a descent gives out, references lead to. -/
theorem Descent.given_resolves (descent : context.Descent targets registry given final ending)
    (resolving : ∀ target ∈ targets, context.Resolves target) : ∀ target ∈ given, context.Resolves target := by
  induction descent with
  | done | refused => exact List.forall_mem_nil _
  | met _ _ ih => exact ih (List.forall_mem_cons.mp resolving).2
  | broken _ _ ih => exact ih fun _ => resolves_of_mem_targets
  | finished _ _ _ ihInside ihRest =>
    obtain ⟨here, behind⟩ := List.forall_mem_cons.mp resolving
    exact List.forall_mem_append.mpr
      ⟨ihInside fun _ => resolves_of_mem_targets, List.forall_mem_cons.mpr ⟨here, ihRest behind⟩⟩

private theorem accounts_of_descent {builds : List Build} {added : Registry}
    (resolving : ∀ target ∈ targets, context.Resolves target)
    (descent : context.Descent targets registry given final none) (appended : final = registry ++ added)
    (fresh : Fresh registry added) (listed : (given.map Target.entry).Perm added) :
    context.Accounts builds registry { clientProjections := given.map context.projection } final added where
  appended := appended
  fresh := fresh
  listed := by
    rw [List.map_map]
    exact listed
  packaged := by
    intro projection member
    obtain ⟨target, _, rfl⟩ := List.mem_map.mp member
    rfl
  refers := by
    intro projection member
    obtain ⟨target, inGiven, rfl⟩ := List.mem_map.mp member
    exact refers_projectionOf (.reference (descent.given_resolves resolving target inGiven))
      (descent.closes rfl target inGiven)

/-- One successful build of a type: if it adds anything, the type itself is registered first and its
projection is given out last. -/
theorem buildType_accounts {baseName : String} {position : Nat} {definition : TypeDefinition}
    {api : Api} {outcome : Outcome}
    (built : context.buildType baseName position definition registry = (.ok api, outcome)) :
    ∃ added, context.Accounts [.type baseName position definition] registry api outcome.registry added ∧
      api.queryTypes = [] ∧ ∀ first ∈ added.head?, first = (className baseName, definition.name.text) ∧
        api.clientProjections.getLast?.map entry = some first := by
  rcases buildType_ok built with ⟨_, rfl, same⟩ | ⟨absent, given, descent, rfl⟩
  · exact ⟨[], ⟨by simp [same], .nil, by simp, by simp, by simp⟩, rfl, by simp⟩
  obtain ⟨inside, appended, fresh, listed⟩ := descent.accounts
  let own : String × String := (className baseName, definition.name.text)
  have below : context.Accounts [.type baseName position definition] _ _ _ _ :=
    accounts_of_descent (fun _ => resolves_of_mem_targets) descent appended fresh (listed rfl)
  have refersOwn : context.Refers [.type baseName position definition] (registeredIn outcome.registry)
      (context.projectionOf (className baseName) position definition) :=
    refers_projectionOf (.type List.mem_cons_self) (descent.registers rfl)
  refine ⟨own :: inside, ⟨?_, ?_, ?_, ?_, ?_⟩, rfl, ?_⟩
  · rw [appended, List.append_assoc, List.singleton_append]
  · exact (Fresh.single own absent).append fresh
  · rw [List.map_append]
    exact (below.listed.append_right _).trans (List.perm_append_singleton own inside)
  · intro projection member
    rcases List.mem_append.mp member with inBelow | isOwn
    · exact below.packaged projection inBelow
    · rw [List.mem_singleton.mp isOwn]
      rfl
  · intro projection member
    rcases List.mem_append.mp (List.nil_append _ ▸ member) with inBelow | isOwn
    · exact below.refers projection inBelow
    · rw [List.mem_singleton.mp isOwn]
      exact refersOwn
  · intro first isFirst
    obtain rfl : own = first := by simpa using isFirst
    exact ⟨rfl, by simp [own, entry, projectionOf, Projection.name]⟩

theorem buildRoot_accounts {position : Nat} {definition : TypeDefinition} {api : Api}
    {outcome : Outcome}
    (built : context.buildRoot position definition registry = (.ok api, outcome)) :
    ∃ added, context.Accounts [.root position definition] registry api outcome.registry added := by
  obtain ⟨given, descent, rfl⟩ := buildRoot_ok built
  obtain ⟨added, appended, fresh, listed⟩ := descent.accounts
  have below : context.Accounts [.root position definition] _ _ _ _ :=
    accounts_of_descent (fun _ => resolves_of_mem_rootTargets) descent appended fresh (listed rfl)
  refine ⟨added, below.appended, below.fresh, below.listed, below.packaged, ?_⟩
  intro projection member
  rcases List.mem_append.mp member with isRoot | inBelow
  · rw [List.mem_singleton.mp isRoot]
    exact refers_rootProjectionOf List.mem_cons_self (descent.registers rfl)
  · exact below.refers projection inBelow

def perform (context : Context) (registry : Registry) : Build → Except Clash Api × Outcome
  | .type baseName position definition => context.buildType baseName position definition registry
  | .root position definition => context.buildRoot position definition registry

/-- Builds one after the other, each with the registry that the one before left behind. -/
def performAll (context : Context) : List Build → Registry → Except Clash (Api × Registry)
  | [], registry => .ok ({}, registry)
  | build :: rest, registry =>
    match context.perform registry build with
    | (.error clash, _) => .error clash
    | (.ok api, outcome) =>
      match context.performAll rest outcome.registry with
      | .error clash => .error clash
      | .ok (more, final) => .ok (api.merge more, final)

theorem Accounts.merge {builds others : List Build} {middle front back : Registry} {first second : Api}
    (before : context.Accounts builds registry first middle front)
    (behind : context.Accounts others middle second final back) :
    context.Accounts (builds ++ others) registry (first.merge second) final (front ++ back) where
  appended := by rw [behind.appended, before.appended, List.append_assoc]
  fresh := before.fresh.append (before.appended ▸ behind.fresh)
  listed := by
    rw [Api.merge, List.map_append]
    exact before.listed.append behind.listed
  packaged := by
    intro projection member
    rcases List.mem_append.mp member with inFirst | inSecond
    · exact before.packaged projection inFirst
    · exact behind.packaged projection inSecond
  refers := by
    intro projection member
    have split : projection ∈ first.queryTypes ++ first.clientProjections ∨
        projection ∈ second.queryTypes ++ second.clientProjections := by
      simpa only [Api.merge, List.mem_append, or_or_or_comm] using member
    rcases split with inFirst | inSecond
    · refine (before.refers projection inFirst).mono (List.subset_append_left ..) fun target known => ?_
      rw [registeredIn, behind.appended]
      exact Registry.lookup_append known
    · exact (behind.refers projection inSecond).mono (List.subset_append_right ..) fun _ => id

theorem perform_accounts {build : Build} {api : Api} {outcome : Outcome}
    (built : context.perform registry build = (.ok api, outcome)) :
    ∃ added, context.Accounts [build] registry api outcome.registry added := by
  cases build with
  | type baseName position definition =>
    obtain ⟨added, accounts, _⟩ := buildType_accounts built
    exact ⟨added, accounts⟩
  | root position definition => exact buildRoot_accounts built

theorem performAll_accounts {builds : List Build} {api : Api}
    (built : context.performAll builds registry = .ok (api, final)) :
    ∃ added, context.Accounts builds registry api final added := by
  induction builds generalizing registry api with
  | nil =>
    cases built
    exact ⟨[], by simp, .nil, by simp, by simp, by simp⟩
  | cons build rest ih =>
    simp only [performAll] at built
    split at built
    · cases built
    · next own outcome first =>
      split at built
      · cases built
      · next more last behind =>
        cases built
        obtain ⟨front, before⟩ := perform_accounts first
        obtain ⟨back, after⟩ := ih behind
        exact ⟨front ++ back, before.merge after⟩

/-- **The registry accounts for what is built.** A successful build of a type, from any registry, appends
exactly one new entry for each projection it gives out, with the type itself registered first and given
out last. Each projection is made from the type that was to be built or from one that references lead to
in the document, and every class that its accessors go on in is then registered for the type that the
field of this very type resolves to. So what is built by any successful sequence of builds on one empty
registry is closed: its classes are distinct, they are the registry's, and every class that is referred
to is among them, made for the type of the field. -/
theorem registry_accounts (context : Context) :
    (∀ baseName position definition registry api outcome,
      context.buildType baseName position definition registry = (.ok api, outcome) →
        ∃ added, context.Accounts [.type baseName position definition] registry api outcome.registry added ∧
          api.queryTypes = [] ∧ ∀ first ∈ added.head?, first = (className baseName, definition.name.text) ∧
            api.clientProjections.getLast?.map entry = some first) ∧
    (∀ builds api final, context.performAll builds [] = .ok (api, final) →
      (api.clientProjections.map entry).Perm final ∧
        (api.clientProjections.map Projection.classRef).Nodup ∧
        ∀ projection ∈ api.queryTypes ++ api.clientProjections,
          context.Refers builds (fun sub typeName => ∃ other ∈ api.clientProjections,
            other.classRef = sub ∧ other.sourceType = typeName) projection) := by
  refine ⟨fun _ _ _ _ _ _ built => buildType_accounts built, fun builds api final built => ?_⟩
  obtain ⟨added, accounts⟩ := performAll_accounts built
  obtain rfl : final = added := accounts.appended
  refine ⟨accounts.listed, ?_, fun projection member => ?_⟩
  · have keys := (accounts.listed.map Prod.fst).nodup_iff.mpr accounts.fresh.distinct
    rw [List.map_map] at keys
    exact List.Nodup.of_map ClassRef.name (by rwa [List.map_map])
  · refine (accounts.refers projection member).mono (List.Subset.refl _) fun target known => ?_
    obtain ⟨other, inApi, same⟩ :=
      List.mem_map.mp (accounts.listed.mem_iff.mpr (Registry.mem_of_lookup known))
    obtain ⟨named, source⟩ := Prod.mk.inj same
    refine ⟨other, inApi, ?_, source⟩
    change ClassRef.mk other.package other.name = _
    rw [accounts.packaged other inApi, named]
    rfl

/-- Building the library's root registers books before authors and gives authors out before books. -/
theorem library_accounts :
    let api : Api :=
      { queryTypes := [Library.context.rootProjectionOf 0 Library.query]
        clientProjections :=
          [Library.context.projection Library.author, Library.context.projection Library.book] }
    let registry : Registry := [Library.book.entry, Library.author.entry]
    Library.context.performAll [.root 0 Library.query] [] = .ok (api.merge {}, registry) ∧
      ((api.merge {}).clientProjections.map entry).Perm registry := by
  intro api registry
  obtain ⟨outcome, built, registered⟩ := buildRoot_of_descent Library.descent
  have performed : Library.context.performAll [.root 0 Library.query] []
      = .ok (api.merge {}, registry) := by
    simp only [performAll, perform, built, registered]
    rfl
  exact ⟨performed, ((registry_accounts Library.context).2 _ _ _ performed).1⟩

end Context

end SelectionGen.Projection
