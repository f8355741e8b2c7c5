import InterfaceGen.Layout.Draft

/-!
# Scripts

A script is a list of steps on one draft.  A step `stop` ends the script from inside: the steps
after it are skipped in every list around it, and the blocks around it are closed.
-/

namespace InterfaceGen

/-- A step on a draft. -/
inductive Step where
  | append (text : String)
  | line (text : String)
  | join (separator : String) (items : List String)
  | block (body : List Step)
  | stop
  | method (m : MethodDecl)
  | property (x : PropertyDecl)
  | anchor (location? : Option Location)
  | resetAnchor

/-- A draft, and whether a script on it has been stopped. -/
structure ScriptState where
  draft : Draft := .blank
  stopped : Bool := false

mutual

/-- One step on a draft. -/
def Step.run (s : Settings) (d : Draft) : Step → ScriptState
  | .append text => ⟨d.onPage (·.append text), false⟩
  | .line text => ⟨d.line text, false⟩
  | .join separator items => ⟨d.onPage (·.join separator items), false⟩
  | .block body =>
    let inner := Step.runAll s (d.onPage Page.openBlock) body
    { inner with draft := inner.draft.onPage Page.closeBlock }
  | .stop => ⟨d, true⟩
  | .method m => ⟨d.method s m, false⟩
  | .property x => ⟨d.property s x, false⟩
  | .anchor location? => ⟨d.anchor s location?, false⟩
  | .resetAnchor => ⟨d.resetAnchor s, false⟩

/-- A list of steps on a draft, up to the first that stops. -/
def Step.runAll (s : Settings) (d : Draft) : List Step → ScriptState
  | [] => ⟨d, false⟩
  | step :: steps =>
    let next := Step.run s d step
    if next.stopped then next else Step.runAll s next.draft steps

end

/-- What can be seen of a draft. -/
structure ScriptView where
  isEmpty : Bool
  stopped : Bool
  text : String

/-- What can be seen of a state. -/
def ScriptState.view (st : ScriptState) : ScriptView where
  isEmpty := st.draft.page.isEmpty
  stopped := st.stopped
  text := st.draft.page.finish

/-- What can be seen after each number of steps of a script. -/
def scriptViews (s : Settings) (steps : List Step) : List ScriptView :=
  (List.range (steps.length + 1)).map fun k => (Step.runAll s .blank (steps.take k)).view

end InterfaceGen
