import Dialogue.Rehearsal
import Dialogue.Settings
/-!
# Fixtures

What a test gets handed: a stand-in and a limit of time. When the test is over, a stand-in that still
runs is exited, so that nothing goes on waiting for it.
-/

namespace Dialogue.Fixture

/-- The limit of time for sessions in tests. -/
def timeout (s : TestSettings) : Span Float := .ofNumber (.real s.expectTimeout)

/-- The end of a test. -/
def tearDown (x : StandIn) : List Record × StandIn :=
  if x.exited then ([], x)
  else
    let (records, x') := x.exit none
    (.endingStandIn x.shown :: records, x')

end Dialogue.Fixture
