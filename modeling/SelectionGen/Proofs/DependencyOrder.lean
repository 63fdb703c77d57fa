import SelectionGen.Proofs.Reachability

/-! The order in which projections are given out. A projection comes behind those it refers to, as far as that
can be: where it does not, the type it refers to was still being followed when the walk came back to
it, so the two lie on a cycle. Without cycles the order is one in which every class can be written
after those it needs. -/
namespace SelectionGen.Projection

open Sdl Schema

namespace Context

variable {context : Context} {targets given : List Target} {registry final : Registry}
  {ending : Option Clash} {target next : Target}

private theorem before_right {front back : List Target} (order : [next, target].Sublist back) :
    [next, target].Sublist (front ++ back) :=
  order.trans (List.sublist_append_right front back)

private theorem before_of_mem {front back : List Target} (early : next ∈ front) (late : target ∈ back) :
    [next, target].Sublist (front ++ back) :=
  (List.singleton_sublist.mpr early).append (List.singleton_sublist.mpr late)

/-- What is registered once a new type is finished was registered before, is that type, or was given out
below it. -/
private theorem registered_by_finish {below : List Target} {middle : Registry}
    (inside : context.Descent (context.targets target) (registry ++ [target.entry]) below middle none)
    (resolves : context.Resolves target) (resolvesNext : context.Resolves next)
    (known : middle.lookup next.className = some next.typeName) :
    registry.lookup next.className = some next.typeName ∨ next ∈ below ++ [target] := by
  obtain ⟨added, rfl, _, listed⟩ := inside.accounts
  rw [List.append_assoc] at known
  rcases Registry.lookup_append_cases known with old | new
  · exact .inl old
  right
  rcases List.mem_append.mp new with own | later
  · have same : next.entry = target.entry := List.mem_singleton.mp own
    simp [resolvesNext.entry_ext resolves same]
  · obtain ⟨found, inBelow, same⟩ := List.mem_map.mp ((listed rfl).mem_iff.mpr later)
    have resolvesFound := (inside.given_reached found inBelow).resolves fun _ => resolves_of_mem_targets
    rw [← resolvesFound.entry_ext resolvesNext same]
    exact List.mem_append_left _ inBelow

/-- A type given out comes behind each type its fields lead to, unless that one was registered before the
descent began or leads back to it. -/
theorem Descent.ordered (descent : context.Descent targets registry given final ending)
    (whole : ending = none) (resolving : ∀ start ∈ targets, context.Resolves start) :
    ∀ target ∈ given, ∀ next, context.Leads target next →
      registry.lookup next.className = some next.typeName ∨ [next, target].Sublist given ∨
        Relation.ReflTransGen context.Leads next target := by
  induction descent with
  | done => simp
  | met _ _ ih => exact ih whole fun start later => resolving start (List.mem_cons_of_mem _ later)
  | refused | broken => cases whole
  | @finished current registry below middle later after final ending fresh inside rest ihInside ihRest =>
    have resolvesCurrent := resolving current List.mem_cons_self
    intro target member next leads
    have resolvesNext : context.Resolves next := resolves_of_mem_targets leads
    have settled := registered_by_finish inside resolvesCurrent resolvesNext
    rcases List.mem_append.mp member with inBelow | fromHere
    · rcases ihInside rfl (fun _ => resolves_of_mem_targets) target inBelow next leads with
        known | order | path
      · rcases Registry.lookup_append_cases known with old | own
        · exact .inl old
        -- The current type is still being followed, and it leads to everything below it.
        · have below := inside.given_reached target inBelow
          rw [resolvesNext.entry_ext resolvesCurrent (List.mem_singleton.mp own)]
          exact .inr (.inr (reached_of_path current below))
      · exact .inr (.inl (order.trans (List.sublist_append_left below _)))
      · exact .inr (.inr path)
    rcases List.mem_cons.mp fromHere with rfl | inAfter
    · rcases settled (inside.registers rfl next leads) with old | early
      · exact .inl old
      rcases List.mem_append.mp early with inBelow | own
      · exact .inr (.inl (before_of_mem inBelow List.mem_cons_self))
      · rw [List.mem_singleton.mp own]
        exact .inr (.inr .refl)
    · rw [List.append_cons]
      rcases ihRest whole (fun start later => resolving start (List.mem_cons_of_mem _ later))
        target inAfter next leads with known | order | path
      · rcases settled known with old | early
        · exact .inl old
        · exact .inr (.inl (before_of_mem early inAfter))
      · exact .inr (.inl (before_right order))
      · exact .inr (.inr path)

/-- Both projections are among the given ones, and some accessor of the first goes on in the class of the
second. -/
def Uses (projections : List SelectionGen.Projection) (first second : SelectionGen.Projection) :
    Prop :=
  first ∈ projections ∧ second ∈ projections ∧
    ∃ accessor ∈ first.accessors, accessor.selector = .composite second.classRef

private theorem uses_of_leads (inGiven : target ∈ given) (nextGiven : next ∈ given)
    (leads : context.Leads target next) :
    Uses (given.map context.projection) (context.projection target) (context.projection next) := by
  obtain ⟨resolved, inFields, selected⟩ := List.mem_filterMap.mp leads
  exact ⟨List.mem_map_of_mem inGiven, List.mem_map_of_mem nextGiven,
    composite_of_field [] inFields selected⟩

/-- A path along fields is one along accessors, since whatever lies on the path was given out as well. -/
private theorem uses_of_path (descent : context.Descent targets [] given final none)
    (resolving : ∀ start ∈ targets, context.Resolves start) (start : target ∈ given)
    (path : Relation.ReflTransGen context.Leads target next) :
    next ∈ given ∧ Relation.ReflTransGen (Uses (given.map context.projection))
      (context.projection target) (context.projection next) := by
  induction path with
  | refl => exact ⟨start, .refl⟩
  | tail _ leads ih =>
    obtain ⟨inGiven, along⟩ := ih
    have reached := ((descent.mem_given_iff resolving).mp inGiven).step leads
    have nextGiven := (descent.mem_given_iff resolving).mpr reached
    exact ⟨nextGiven, along.tail (uses_of_leads inGiven nextGiven leads)⟩

/-- The class an accessor goes on in is that of a projection which comes before the accessor's own or
leads back to it. -/
private theorem composite_ordered (descent : context.Descent targets [] given final none)
    (resolving : ∀ start ∈ targets, context.Resolves start) (inGiven : target ∈ given)
    {accessor : Accessor} {sub : ClassRef} (member : accessor ∈ (context.projection target).accessors)
    (composite : accessor.selector = .composite sub) :
    ∃ other ∈ given.map context.projection, other.classRef = sub ∧
      ([other, context.projection target].Sublist (given.map context.projection) ∨
        Relation.ReflTransGen (Uses (given.map context.projection)) other
          (context.projection target)) := by
  obtain ⟨resolved, inFields, next, selected, _, rfl⟩ := field_of_composite member composite
  have leads : context.Leads target next := List.mem_filterMap.mpr ⟨resolved, inFields, selected⟩
  have reached := ((descent.mem_given_iff resolving).mp inGiven).step leads
  have nextGiven := (descent.mem_given_iff resolving).mpr reached
  refine ⟨context.projection next, List.mem_map_of_mem nextGiven, rfl, ?_⟩
  rcases descent.ordered rfl resolving target inGiven next leads with known | order | path
  · cases known
  · exact .inl (order.map context.projection)
  · exact .inr (uses_of_path descent resolving nextGiven path).2

/-- **Projections come behind those they refer to.** Each class that an accessor of a client projection goes
on in is that of one client projection, which comes strictly before the accessor's own unless it leads
back to it along accessors. So where accessors lead nowhere in a circle, every projection comes behind
all those it refers to. -/
theorem generate_orders_dependencies {context : Context} {position : Nat}
    {definition : TypeDefinition} {api : Api}
    (done : (context.generate position definition).1 = .ok api) :
    (api.clientProjections.map Projection.classRef).Nodup ∧
    (∀ projection ∈ api.clientProjections, ∀ accessor ∈ projection.accessors, ∀ sub,
      accessor.selector = .composite sub →
        ∃ other ∈ api.clientProjections, other.classRef = sub ∧
          ([other, projection].Sublist api.clientProjections ∨
            Relation.ReflTransGen (Uses api.clientProjections) other projection)) ∧
    ((∀ projection, ¬ Relation.TransGen (Uses api.clientProjections) projection projection) →
      ∀ projection other, Uses api.clientProjections projection other →
        [other, projection].Sublist api.clientProjections) := by
  obtain ⟨given, final, descent, rfl⟩ := generate_ok done
  have resolving : ∀ start ∈ context.rootTargets position definition, context.Resolves start :=
    fun _ => resolves_of_mem_rootTargets
  have distinct : ((given.map context.projection).map Projection.classRef).Nodup := by
    refine List.Nodup.of_map ClassRef.name ?_
    rw [List.map_map, List.map_map]
    exact descent.classNames_nodup
  have ordered : ∀ projection ∈ given.map context.projection, ∀ accessor ∈ projection.accessors,
      ∀ sub, accessor.selector = .composite sub →
        ∃ other ∈ given.map context.projection, other.classRef = sub ∧
          ([other, projection].Sublist (given.map context.projection) ∨
            Relation.ReflTransGen (Uses (given.map context.projection)) other projection) := by
    intro projection member accessor inAccessors sub composite
    obtain ⟨target, inGiven, rfl⟩ := List.mem_map.mp member
    exact composite_ordered descent resolving inGiven inAccessors composite
  refine ⟨distinct, ordered, ?_⟩
  rintro acyclic projection other ⟨member, otherMember, accessor, inAccessors, composite⟩
  obtain ⟨found, foundMember, same, order⟩ := ordered projection member accessor inAccessors _ composite
  obtain rfl : found = other := List.inj_on_of_nodup_map distinct foundMember otherMember same
  rcases order with before | path
  · exact before
  · have uses : Uses (given.map context.projection) projection found :=
      ⟨member, otherMember, accessor, inAccessors, composite⟩
    exact absurd (Relation.TransGen.head' uses path) (acyclic projection)

/-- Books lead to authors, who come first, and authors to books, which come later but lead back. -/
theorem library_orders_dependencies :
    let projections :=
      [Library.context.projection Library.author, Library.context.projection Library.book]
    (Library.context.generate 0 Library.query).1
      = .ok { queryTypes := [Library.context.rootProjectionOf 0 Library.query]
              clientProjections := projections } ∧
    ∀ projection ∈ projections, ∀ accessor ∈ projection.accessors, ∀ sub,
      accessor.selector = .composite sub → ∃ other ∈ projections, other.classRef = sub ∧
        ([other, projection].Sublist projections ∨
          Relation.ReflTransGen (Uses projections) other projection) :=
  ⟨Library.generated, (generate_orders_dependencies Library.generated).2.1⟩

end Context

end SelectionGen.Projection
