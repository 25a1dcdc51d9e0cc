import GigListings.Workflow.Basic

namespace GigListings.Executor

/-! Visits to the pages of single events. A visit that fails leaves its item as it is. -/

def visit (executor : Executor) (page : Page) (visit : Visit) : Run (Option Item) := do
  match ← page.call (.goto visit.url true) with
  | .error _ => return none
  | .ok () =>
      match ← page.call .content with
      | .error _ => return none
      | .ok html => return some (executor.extractor.extractDocument visit.followUp.fields html)

/-- Visits one page after another; what is found there wins over what the item holds. -/
def visitAll (executor : Executor) (page : Page) (item : Item) : List Visit → Run Item
  | [] => return item
  | next :: rest => do
      executor.rest
      match ← executor.visit page next with
      | some found => executor.visitAll page (Dict.merge item found) rest
      | none => executor.visitAll page item rest

def followUpPage (executor : Executor) : FollowUpPage → Run FollowUpPage
  | .unopened => do
      match ← Page.openNext executor.config.browser with
      | .ok page => return .opened page
      | .error _ => return .unavailable
  | page => return page

def complete (executor : Executor) (extracted : Extracted) (followUps : FollowUpPage) :
    Run (Item × FollowUpPage) := do
  if extracted.visits.isEmpty then return (extracted.item, followUps)
  match ← executor.followUpPage followUps with
  | .opened page =>
      return (← executor.visitAll page extracted.item extracted.visits, .opened page)
  | followUps => return (extracted.item, followUps)

def completeAll (executor : Executor) (progress : Progress) : List Extracted → Run Progress
  | [] => return progress
  | extracted :: rest => do
      let (item, followUpPage) ← executor.complete extracted progress.followUpPage
      executor.completeAll { progress with items := progress.items ++ [item], followUpPage } rest

end GigListings.Executor
