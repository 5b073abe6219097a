import Dawn.Native.PipelineLayout
import Dawn.Native.BindGroupTracker
import Dawn.Properties.TrackerInvariants
import Dawn.Native.Backend
import Dawn.Properties.Refinement
import Dawn.Wire.ClientDoers
import Dawn.Properties.MapCallbacks
import Dawn.Native.Texture
import Dawn.Native.OpenGL.TextureGL
import Dawn.Properties.LazyClear
import Dawn.Properties.StagingBuffer
import Dawn.Native.OpenGL.TextureNames
import Dawn.Native.OpenGL.TextureViewGL
import Dawn.Properties.TextureViews
import Dawn.Properties.CreationClear
