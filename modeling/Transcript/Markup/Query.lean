import Transcript.Fault.Basic
import Transcript.Selector.Reader

/-!
# Queries by written selectors

Searches in a tree by the written form of a selector. A text that is no selector is a fault; it is
met whenever an element is asked, whether or not anything could be found.
-/

namespace Transcript

open Markup

/-- Reads a selector, a text that is none being a fault. -/
def Selector.parse (text : String) : Except Fault Selector :=
  match Selector.read text with
  | .ok s => .ok s
  | .error e => .error (.of (if e.flaw.isUnsupported then .unsupported else .selector) e.message)

namespace Markup.Cursor

/-- Whether an element matches a written selector; other nodes never do. -/
def matchesText (c : Cursor) (selector : String) : Except Fault Bool :=
  if c.node.isElement then (Selector.parse selector).map (·.accepts c) else .ok false

/-- What a search from an element finds with a written selector; from other nodes nothing is
found. -/
def searchText? (c : Cursor) (selector : String) (search : Selector → Cursor → Option Cursor) :
    Except Fault (Option Cursor) :=
  if c.node.isElement then (Selector.parse selector).map (search · c) else .ok none

/-- The node itself, or the closest element above, matching a written selector. -/
def closestText? (c : Cursor) (selector : String) : Except Fault (Option Cursor) :=
  c.searchText? selector Selector.closest?

/-- The first element below a node that matches a written selector. -/
def selectOneText? (c : Cursor) (selector : String) : Except Fault (Option Cursor) :=
  c.searchText? selector Selector.selectOne?

/-- The fault of asking a node that is no element for what only elements have. -/
def notAnElement : Fault :=
  { kind := .missingMember }

/-- The elements below an element that match a written selector, in document order. -/
def selectText (c : Cursor) (selector : String) : Except Fault (List Cursor) :=
  if c.node.isElement then (Selector.parse selector).map (·.select c) else .error notAnElement

/-- The first element below an element that matches a written selector; a fault for other nodes. -/
def findText? (c : Cursor) (selector : String) : Except Fault (Option Cursor) :=
  if c.node.isElement then c.selectOneText? selector else .error notAnElement

variable {c d : Cursor} {text : String} {s : Selector} {search : Selector → Cursor → Option Cursor}

theorem searchText?_of_parse (helement : c.node.isElement = true)
    (hparse : Selector.parse text = .ok s) : c.searchText? text search = .ok (search s c) := by
  rw [searchText?, if_pos helement, hparse]
  rfl

theorem findText?_of_parse (helement : c.node.isElement = true)
    (hparse : Selector.parse text = .ok s) : c.findText? text = .ok (s.selectOne? c) := by
  rw [findText?, if_pos helement]
  exact searchText?_of_parse helement hparse

theorem exists_search_of_searchText? (h : c.searchText? text search = .ok (some d)) :
    ∃ s : Selector, search s c = some d := by
  unfold searchText? at h
  split at h
  · cases hparse : Selector.parse text with
    | error fault =>
      rw [hparse] at h
      cases h
    | ok s =>
      rw [hparse] at h
      exact ⟨s, Except.ok.inj h⟩
  · cases h

end Markup.Cursor

end Transcript
