import Mockup.CommandLine.Run
import Mockup.Proofs.Resolution.Mirror
import Mockup.Proofs.Snapshot.Hidden
import Mockup.Proofs.View.Dispatch

/-!
# Listed widgets

The list of widgets of a document against the widgets of its view. The list also has the instances
in the parts that the view leaves out.
-/

namespace Mockup

/-- The instances in the parts of a snapshot that a view leaves out, with their kinds. -/
def Snapshot.hiddenWidgets (s : Snapshot) (config : Config) : List (Snapshot × ComponentKind) :=
  (s.leftOut config).flatMap (Snapshot.widgets · config.components)

private theorem Snapshot.splits_widgets (s : Snapshot) (config : Config) :
    Splits (s.widgets config.components) (s.visibleWidgets config) (s.hiddenWidgets config) := by
  have h := (s.splits_instances config).map fun i => (i, i.widgetKind config.components)
  rw [List.map_flatMap] at h
  exact h

namespace CommandLine

/-- What a list of widgets says of each. -/
def listing (widget : Snapshot × ComponentKind) : NodeId × String × ComponentKind :=
  (widget.1.node.id, widget.1.name, widget.2)

/-- The widgets of a view are listed in their order, and besides them those in the parts that the
view leaves out. The list is the one of the view just when there are none. -/
theorem widgetList_eq_dispatched_iff (document : Document) (config : Config) {root : Node}
    {s : Snapshot} {view : String} (hroot : document.root = some root)
    (hs : (root.resolve document.library.source).result = .ok s)
    (hview : (Composer.compose { config } s).1 = .ok view) :
    ∃ listed dispatched, widgetList document config = .ok listed ∧
      Composer.dispatched { config } s = .ok dispatched ∧
      Splits listed dispatched (s.hiddenWidgets config) ∧
      (listed.map listing = dispatched.map listing ↔
        ∀ part ∈ s.leftOut config, ∀ n ∈ part.preorder, n.node.kind ≠ .componentInstance) := by
  have hsplits := s.splits_widgets config
  refine ⟨s.widgets config.components, s.visibleWidgets config, ?_, ?_, hsplits, ?_⟩
  · simp only [widgetList, hroot, hs]
  · rw [Composer.dispatched_eq, hview]
    rfl
  · rw [(hsplits.map listing).eq_iff, List.map_eq_nil_iff, Snapshot.hiddenWidgets,
      List.flatMap_eq_nil_iff]
    simp [Snapshot.widgets]

/-- A page with an instance below an app bar, which the standard configuration leaves out. -/
private def barredPage (inBar : List Node) : Node where
  id := ⟨"0"⟩
  kind := .frame
  name := "Page"
  children := [
    { id := ⟨"1"⟩, kind := .frame, name := "Top App Bar", children := inBar },
    { id := ⟨"2"⟩, kind := .componentInstance, name := "Save" }]

private def barredSnapshot (inBar : List Node) : Snapshot where
  node := barredPage inBar
  children := (barredPage inBar).children.map fun n =>
    { node := n, children := n.children.map fun inner => { node := inner } }

theorem widgetList_eq_dispatched_bareBar :
    let root := barredPage [{ id := ⟨"3"⟩, kind := .line, name := "Rule" }]
    ∃ listed dispatched, widgetList { root := some root } {} = .ok listed ∧
      Composer.dispatched { config := {} }
        (barredSnapshot [{ id := ⟨"3"⟩, kind := .line, name := "Rule" }]) = .ok dispatched ∧
      listed.map listing = dispatched.map listing ∧
      listed.map listing = [(⟨"2"⟩, "Save", .container)] := by
  intro root
  let s := barredSnapshot [{ id := ⟨"3"⟩, kind := .line, name := "Rule" }]
  have hok : (Composer.compose { config := {} } s).1.isOk := by decide +kernel
  obtain ⟨view, hview⟩ := exists_ok_of_isOk hok
  have hs : (root.resolve ({} : Library).source).result = .ok s := rfl
  have hbare : ∀ part ∈ s.leftOut {}, ∀ n ∈ part.preorder, n.node.kind ≠ .componentInstance := by
    decide +kernel
  obtain ⟨listed, dispatched, hlisted, hdispatched, -, heq⟩ :=
    widgetList_eq_dispatched_iff { root := some root } {} rfl hs hview
  refine ⟨listed, dispatched, hlisted, hdispatched, heq.2 hbare, ?_⟩
  have hlist : (widgetList { root := some root } {}).map (List.map listing) =
      .ok [(⟨"2"⟩, "Save", .container)] := by
    decide +kernel
  rw [hlisted] at hlist
  exact Except.ok.inj hlist

/-- An instance in the bar is listed, though the view has no widget for it. -/
theorem widgetList_ne_dispatched_filledBar :
    let inBar := [{ id := ⟨"3"⟩, kind := .componentInstance, name := "Back" }]
    ((barredPage inBar).resolve ({} : Library).source).result = .ok (barredSnapshot inBar) ∧
      (Composer.compose { config := {} } (barredSnapshot inBar)).1.isOk ∧
      (widgetList { root := some (barredPage inBar) } {}).map (List.map listing) =
        .ok [(⟨"3"⟩, "Back", .container), (⟨"2"⟩, "Save", .container)] ∧
      (Composer.dispatched { config := {} } (barredSnapshot inBar)).map (List.map listing) =
        .ok [(⟨"2"⟩, "Save", .container)] := by
  intro inBar
  exact ⟨rfl, by decide +kernel, by decide +kernel, by decide +kernel⟩

end CommandLine

end Mockup
