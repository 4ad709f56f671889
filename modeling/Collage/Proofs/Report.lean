import Collage.Proofs.Resolution.Tower
import Collage.Report

/-! # What a report says

A message is made of the texts of a chain of causes.  It only grows at its end, so every text stays
in it and the last one ends it.  The text of a failure of composition ends with the texts of its own
causes, so these add nothing (`Report.message_holds_all`).  Advice is given on the failure inside of
all wrappers, and the wrappers give the way to it (`Report.ofProblem_wrapped`).
-/

namespace Collage

namespace Report

variable {message text : String}

/-! ## Messages -/

theorem addCause_of_suffix (ends : text.toList <:+ message.toList) :
    addCause message text = message := by
  rw [addCause, if_pos (List.isSuffixOf_iff_suffix.2 ends)]

/-- A message grows at its end. -/
theorem prefix_addCause (message text : String) :
    message.toList <+: (addCause message text).toList := by
  rw [addCause]
  split
  · exact List.prefix_rfl
  · split
    · next empty => simp [empty]
    · simp [String.toList_append]

/-- A message ends with the text that it got last. -/
theorem suffix_addCause (message text : String) :
    text.toList <:+ (addCause message text).toList := by
  rw [addCause]
  split
  · next ends => exact List.isSuffixOf_iff_suffix.1 ends
  · split
    · exact List.suffix_rfl
    · rw [String.toList_append]
      exact List.suffix_append _ _

theorem prefix_foldl_addCause (texts : List String) (message : String) :
    message.toList <+: (texts.foldl addCause message).toList := by
  induction texts generalizing message with
  | nil => exact List.prefix_rfl
  | cons text rest ih => exact (prefix_addCause message text).trans (ih _)

theorem chainMessage_singleton (text : String) : chainMessage [text] = text := by
  rw [chainMessage, List.foldl_cons, List.foldl_nil, addCause]
  split
  · next empty => simpa using empty
  · simp

theorem infix_chainMessage (before after : List String) (text : String) :
    text.toList <:+: (chainMessage (before ++ text :: after)).toList := by
  rw [chainMessage, List.foldl_append, List.foldl_cons]
  exact (suffix_addCause _ text).isInfix.trans (prefix_foldl_addCause after _).isInfix

theorem suffix_chainMessage (before : List String) (text : String) :
    text.toList <:+ (chainMessage (before ++ [text])).toList := by
  rw [chainMessage, List.foldl_append]
  exact suffix_addCause _ text

/-- Texts that a message ends with already leave it as it is. -/
theorem foldl_addCause_of_suffix {texts : List String}
    (ended : ∀ text ∈ texts, text.toList <:+ message.toList) :
    texts.foldl addCause message = message := by
  induction texts with
  | nil => rfl
  | cons text rest ih =>
    obtain ⟨first, others⟩ := List.forall_mem_cons.1 ended
    rw [List.foldl_cons, addCause_of_suffix first, ih others]

end Report

namespace ComposeError

variable {e : ComposeError}

/-- The text of a failure ends with the text of each of its causes. -/
theorem suffix_of_mem_causes {text : String} (member : text ∈ e.causes) :
    text.toList <:+ e.text.toList := by
  have behind (front back : String) : back.toList <:+ (front ++ back).toList := by
    rw [String.toList_append]
    exact List.suffix_append _ _
  induction e with
  | io | recursive | duplicateLayout =>
    obtain rfl := List.mem_singleton.1 member
    exact List.suffix_rfl
  | merge | parse | execute | encoding | data =>
    obtain rfl | inner := List.mem_cons.1 member
    · exact List.suffix_rfl
    · obtain rfl := List.mem_singleton.1 inner
      exact behind _ _
  | directive kind reference parent cause ih =>
    obtain rfl | inner := List.mem_cons.1 member
    · exact List.suffix_rfl
    · exact (ih inner).trans (behind _ _)

theorem exists_causes (e : ComposeError) : ∃ nested, e.causes = e.text :: nested := by
  cases e <;> exact ⟨_, rfl⟩

end ComposeError

namespace Report

/-- The causes of a failure of composition add nothing to a message that holds its own text. -/
theorem message_compose (contexts : List String) (e : ComposeError) :
    (ofProblem contexts (.compose e)).message = chainMessage (contexts ++ [e.text]) := by
  obtain ⟨nested, causes⟩ := e.exists_causes
  -- When the nested texts come, the message ends with the text that ends with each of them.
  have ended : ∀ text ∈ nested,
      text.toList <:+ (addCause (contexts.foldl addCause "") e.text).toList := by
    intro text member
    have ends : text.toList <:+ e.text.toList :=
      ComposeError.suffix_of_mem_causes (causes ▸ List.mem_cons_of_mem _ member)
    exact ends.trans (suffix_addCause _ e.text)
  change chainMessage (contexts ++ e.causes) = _
  rw [causes, chainMessage, chainMessage, List.foldl_append, List.foldl_append, List.foldl_cons,
    foldl_addCause_of_suffix ended]
  rfl

/-- A message holds each of its texts and ends with the last one.  The message on a failure of
composition ends with the whole text of the failure, and nothing follows for the causes of that:
it is the message of what was being done and of this one text, and the text itself where nothing
else is told. -/
theorem message_holds_all :
    (∀ (before after : List String) (text : String),
      text.toList <:+: (chainMessage (before ++ text :: after)).toList) ∧
    (∀ (before : List String) (text : String),
      text.toList <:+ (chainMessage (before ++ [text])).toList) ∧
    (∀ (contexts : List String) (e : ComposeError),
      (ofProblem contexts (.compose e)).message = chainMessage (contexts ++ [e.text]) ∧
      e.text.toList <:+ (ofProblem contexts (.compose e)).message.toList) ∧
    (∀ e : ComposeError, (ofProblem [] (.compose e)).message = e.text) := by
  refine ⟨infix_chainMessage, suffix_chainMessage, fun contexts e => ⟨?_, ?_⟩, fun e => ?_⟩
  · exact message_compose contexts e
  · rw [message_compose]
    exact suffix_chainMessage contexts e.text
  · rw [message_compose]
    exact chainMessage_singleton e.text

/-! ## Advice -/

end Report

namespace ComposeError

/-- Wrappers do not change what is inside. -/
@[simp] theorem root_wrapped (e : ComposeError) (wrappers : List Wrapper) :
    (e.wrapped wrappers).root = e.root := by
  induction wrappers with
  | nil => rfl
  | cons w rest ih => exact ih

end ComposeError

namespace Report

theorem pathTo_eq_none {r : ComposeError} (bare : r.wrappers = []) : pathTo r = none := by
  cases r with
  | directive kind reference parent cause => cases bare
  | _ => rfl

/-- What to do about a failure of composition depends on the failure inside of its wrappers alone,
whatever was being done.  The way to that failure is told where there are wrappers. -/
theorem ofProblem_wrapped (r : ComposeError) (bare : r.wrappers = [])
    (wrappers : List ComposeError.Wrapper) (contexts : List String) :
    (ofProblem contexts (.compose (r.wrapped wrappers))).suggestion =
      (ofProblem [] (.compose r)).suggestion ∧
    (ofProblem contexts (.compose (r.wrapped wrappers))).details =
      if wrappers = [] then none
      else some ("resolution path: " ++ " -> ".intercalate (r.wrapped wrappers).chain) := by
  constructor
  · exact congrArg adviceOnRoot (r.root_wrapped wrappers)
  · cases wrappers with
    | nil => exact pathTo_eq_none bare
    | cons w rest => rfl

theorem ofProblem_wrapped_missing :
    (ComposeError.io .noSuchFile).wrappers = [] ∧
      let e := (ComposeError.io .noSuchFile).wrapped
        [⟨.inclusion, "@b", "a"⟩, ⟨.layout, "@c", "b"⟩]
      (ofProblem ["page", "site"] (.compose e)).suggestion =
        some "Check the template name and the template root (--root or `root` in the config)" ∧
      (ofProblem ["page", "site"] (.compose e)).details = some "resolution path: a -> b" :=
  ⟨rfl, ofProblem_wrapped (.io .noSuchFile) rfl _ _⟩

/-- The way is not told by the names of the chain alone: it says what it is. -/
theorem details_ne_chain :
    let e := (ComposeError.recursive "b").wrapped [⟨.inclusion, "@b", "a"⟩]
    (ofProblem [] (.compose e)).details ≠ some (" -> ".intercalate e.chain) := by
  decide +kernel

end Report

end Collage
