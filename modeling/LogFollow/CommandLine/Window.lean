import LogFollow.CommandLine.Arguments
import LogFollow.Failure
import LogFollow.Stream.Cursor

/-! # Windows from the command line

The window of a run comes from the command line, and where that says nothing from the
configuration. -/

namespace LogFollow.CommandLine
set_option autoImplicit false

def noGroup : Failure :=
  ⟨"No log group given. Pass --log-group or run \x60tailscope config set log_group <name>\x60", []⟩

def emptyRange : Failure := ⟨"Start time is after end time", []⟩

def buildWindow (a : Arguments) (c : Config) (now : Int) : Except Failure Window :=
  match a.logGroup.or c.logGroup with
  | none => .error noGroup
  | some group =>
    match a.startMillis now with
    | .error e => .error ⟨e.message, []⟩
    | .ok start =>
      if start.any fun s => a.endTime.any fun t => t < s then .error emptyRange
      else .ok
        { group := group
          start := start
          stop := a.endTime
          limit := a.limit.getD c.queryLimit
          filter := a.filter
          streams := a.streamNames }

def streamConfig (w : Window) (c : Config) : Stream.Config where
  group := w.group
  start := w.start
  stop := w.stop
  limit := w.limit
  filter := w.filter
  streams := w.streams
  poll := c.pollInterval
  capacity := c.channelCapacity

end LogFollow.CommandLine
