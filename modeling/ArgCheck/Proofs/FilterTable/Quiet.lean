import ArgCheck.Proofs.FilterTable.Chain
import ArgCheck.Validation

set_option autoImplicit false

/-!
# Building without warnings

Building a filter emits no warning of its own. Only the factories of custom filters might; a table without
such factories builds everything quietly (`Quiet.build`).
-/

namespace ArgCheck

def Event.warnings (events : List Event) : List Event :=
  events.filter fun event => event.level = .warn

theorem Event.warnings_append (first second : List Event) :
    warnings (first ++ second) = warnings first ++ warnings second := List.filter_append first second

namespace Traced

variable {ε α β : Type}

def Quiet (x : Traced ε α) : Prop := Event.warnings x.events = []

theorem events_map (f : α → β) (x : Traced ε α) : (f <$> x).events = x.events := by
  change (x >>= fun a => pure (f a)).events = _
  rw [events_bind]
  cases x.result with
  | error error => rfl
  | ok a => exact List.append_nil x.events

theorem quiet_pure (a : α) : (pure a : Traced ε α).Quiet := rfl

theorem quiet_ofExcept (result : Except ε α) : (ofExcept result).Quiet := rfl

theorem Quiet.bind {x : Traced ε α} {f : α → Traced ε β} (first : x.Quiet)
    (next : ∀ a, x.result = .ok a → (f a).Quiet) : (x >>= f).Quiet := by
  rw [Quiet, events_bind]
  cases reached : x.result with
  | error error => exact first
  | ok a =>
    have both : Event.warnings x.events ++ Event.warnings (f a).events = [] := by
      rw [first, next a reached]
      rfl
    exact (Event.warnings_append _ _).trans both

end Traced

structure TableView.Quiet (view : TableView) : Prop where
  build : ∀ name options, (view.build name options).Quiet
  custom : ∀ declared make, view.resolve declared = .ok (.custom make) → ∀ base, (make base).Quiet

/-- The factory warns of nothing unless the table does that it asks. -/
def FilterFactory.Quiet (factory : FilterFactory) : Prop :=
  ∀ view base, view.Quiet → (factory.build view base).Quiet

def FilterKind.Quiet : FilterKind → Prop
  | .custom factory => factory.Quiet
  | _ => True

theorem FilterKind.quiet_of_builtin {kind : FilterKind} (builtin : kind.isCustom = false) :
    kind.Quiet := by
  cases kind with
  | custom factory => cases builtin
  | _ => trivial

namespace FilterTable

structure Quiet (table : FilterTable) : Prop where
  tags : ∀ kind ∈ table.tags.values, kind.Quiet
  ids : ∀ kind ∈ table.ids.values, kind.Quiet

variable {table : FilterTable}

theorem CustomFree.quiet (plain : table.CustomFree) : table.Quiet :=
  ⟨fun kind member => FilterKind.quiet_of_builtin (plain.tags kind member),
    fun kind member => FilterKind.quiet_of_builtin (plain.ids kind member)⟩

theorem Quiet.add (quiet : table.Quiet) {kind : FilterKind} (h : kind.Quiet) (tag : String)
    (ids : List TypeId) : (table.add tag kind ids).Quiet :=
  ⟨forall_tags_add quiet.tags h tag ids, forall_ids_add quiet.ids h tag ids⟩

theorem Quiet.resolve (quiet : table.Quiet) {declared : DeclaredType} {kind : FilterKind}
    (h : table.resolve declared = .ok kind) : kind.Quiet :=
  of_resolve quiet.tags quiet.ids trivial h

/-- Along the options there is nothing that warns but the factories. -/
theorem buildWith_quiet {custom : FilterFactory → FilterBase → Traced ArgumentError Filter}
    (factories : ∀ declared factory, table.resolve declared = .ok (.custom factory) →
      ∀ base, (custom factory base).Quiet) (options : Options) (name : String) :
    (table.buildWith custom options name).Quiet := by
  induction options using Options.induction generalizing name with
  | step options ih =>
    obtain ⟨declared, optional, default, description, element, value, cls⟩ := options
    rw [buildWith]
    refine (Traced.quiet_ofExcept _).bind fun kind resolved => ?_
    refine Traced.Quiet.bind rfl fun _ _ => ?_
    cases kind with
    | builtin b =>
      cases b with
      | array =>
        cases element with
        | none => exact Traced.quiet_pure _
        | some inner => exact (ih .array inner rfl _).bind fun item _ => Traced.quiet_pure _
      | hash =>
        cases value with
        | none => exact Traced.quiet_pure _
        | some inner => exact (ih .hash inner rfl _).bind fun item _ => Traced.quiet_pure _
      | _ => exact Traced.quiet_pure _
    | record => exact Traced.quiet_pure _
    | custom factory => exact factories declared factory resolved _

theorem view_quiet {custom : FilterFactory → FilterBase → Traced ArgumentError Filter}
    (factories : ∀ declared factory, table.resolve declared = .ok (.custom factory) →
      ∀ base, (custom factory base).Quiet) : (table.view custom).Quiet := by
  refine ⟨fun name options => buildWith_quiet factories options name, ?_⟩
  intro declared make found base
  obtain ⟨kind, resolved, seen⟩ := (Sequence.map_ok_iff _ _ _).mp found
  cases kind with
  | builtin b => cases seen
  | record => cases seen
  | custom factory =>
    cases seen
    exact factories declared factory resolved base

theorem Quiet.makeNested (quiet : table.Quiet)
    {beyond : FilterFactory → FilterBase → Traced ArgumentError Filter}
    (silent : ∀ factory base, (beyond factory base).Quiet) (nesting : Nat)
    {declared : DeclaredType} {factory : FilterFactory}
    (known : table.resolve declared = .ok (.custom factory)) (base : FilterBase) :
    (table.makeNested beyond nesting factory base).Quiet := by
  induction nesting generalizing declared factory base with
  | zero => exact silent factory base
  | succ nesting ih =>
    have registered : FilterFactory.Quiet factory := quiet.resolve known
    exact registered _ base (view_quiet fun _ _ resolved base => ih resolved base)

theorem Quiet.build (quiet : table.Quiet) (name : String) (options : Options) :
    (table.build name options).Quiet :=
  buildWith_quiet (fun _ _ known base =>
    quiet.makeNested (fun _ _ => Traced.quiet_ofExcept _) _ known base) options name

theorem Quiet.buildSlots (quiet : table.Quiet) (entries : List (String × Argument)) :
    (Validation.buildSlots table entries).Quiet := by
  induction entries with
  | nil => exact Traced.quiet_pure _
  | cons entry rest ih =>
    exact (quiet.build entry.1 entry.2.options).bind fun filter _ =>
      ih.bind fun slots _ => Traced.quiet_pure _

end FilterTable

end ArgCheck
